import Asyncly.Client.Typing
import Asyncly.Tools.Versions

/-!
# Members of an archive

What the archive libraries make of the bytes of a file is a `Library`. The checks that the
wheel and the sdist have in common are about the names of the members, about those that
are required, and about the metadata.
-/

namespace Asyncly

namespace ExcClass

def badZipFile : ExcClass := .other "BadZipFile"
def eofError : ExcClass := .other "EOFError"
def readError : ExcClass := .other "ReadError"
def zlibError : ExcClass := .other "zlib.error"
def tomlDecodeError : ExcClass := .other "TomlDecodeError"

end ExcClass

namespace Release

/-! ### What the libraries return -/

/-- `zipfile.ZipInfo` -/
structure ZipInfo where
  filename : String
  externalAttr : Nat
  deriving DecidableEq

/-- An open `zipfile.ZipFile`. -/
structure ZipArchive where
  infolist : List ZipInfo
  testzip : Except Exn (Option String)
  read : String → Except Exn Bytes

inductive TarType
  | regular | directory | other
  deriving DecidableEq

/-- `tarfile.TarInfo` -/
structure TarInfo where
  name : String
  type : TarType
  deriving DecidableEq

/-- An open `tarfile.TarFile`. A file it extracts is given by what reading it returns. -/
structure TarArchive where
  getmembers : Except Exn (List TarInfo)
  extractfile : TarInfo → Except Exn (Option (Except Exn Bytes))

/-- A stream `gzip.open` returns: its bytes, and what is raised after them, if anything. -/
structure GzipStream where
  data : Bytes
  failure : Option Exn

/-- `email.message.Message` -/
structure Message where
  defects : List String
  headers : Headers

/-- The values of a TOML document, as far as they are told apart. -/
inductive Toml
  | string (text : String)
  | table (members : List (String × Toml))
  | other

/-- The library functions, and the limit of `int` on digits. -/
structure Library where
  intMaxStrDigits : Nat
  unicode : UnicodeData
  zipFile : Bytes → Except Exn ZipArchive
  gzip : Bytes → GzipStream
  tar : Bytes → Except Exn TarArchive
  sha256 : Bytes → String
  parsestr : String → Except Exn Message
  tomlLoads : String → Except Exn (Dict String Toml)

/-! ### Names and types of members -/

/-- `sorted` of texts. -/
def sorted (texts : List String) : List String := texts.mergeSort

theorem sorted_eq_nil {texts : List String} : sorted texts = [] ↔ texts = [] := by
  rw [← List.length_eq_zero_iff, sorted, List.length_mergeSort, List.length_eq_zero_iff]

/-- No member is listed as refused. -/
theorem sorted_map_filter_eq_nil {α : Type} {members : List α} {accepted : α → Bool}
    {name : α → String} :
    sorted ((members.filter fun member => !accepted member).map name) = [] ↔
      ∀ member ∈ members, accepted member = true := by
  rw [sorted_eq_nil, List.map_eq_nil_iff, List.filter_eq_nil_iff]
  simp

/-- A name that may leave the directory it is extracted to. -/
def unsafeName (name : String) : Bool :=
  let path := PurePosixPath.ofString name
  name = "" || path.isAbsolute || name.toList.contains (Char.ofNat 92) ||
    name.toList.contains (Char.ofNat 0) || path.parts.contains ".."

/-- `_validate_member_names` -/
def validateMemberNames (names : List String) (archiveName : String) : Except Exn Unit := do
  Fallible.refuseIf (names.length ≠ names.dedup.length)
    (.releaseError s!"{archiveName} must contain unique member names")
  Fallible.refuseEach unsafeName
    (fun name => .releaseError s!"{archiveName} contains unsafe member path: {name}") names

/-- Names that `_validate_member_names` accepts. -/
structure SafeNames (names : List String) : Prop where
  unique : names.Nodup
  safe : ∀ name ∈ names, unsafeName name = false

theorem validateMemberNames_eq_ok {names : List String} {archiveName : String} {u : Unit} :
    validateMemberNames names archiveName = .ok u ↔ SafeNames names := by
  have same : ¬ names.length ≠ names.dedup.length ↔ names.Nodup := by
    rw [not_not]
    constructor
    · intro length
      rw [← List.dedup_eq_self]
      exact (List.dedup_sublist names).eq_of_length length.symm
    · intro unique
      rw [unique.dedup]
  rw [validateMemberNames, Fallible.bind_eq_ok]
  simp only [Fallible.refuseIf_eq_ok, Fallible.refuseEach_eq_ok, same]
  constructor
  · rintro ⟨-, unique, safe⟩
    exact ⟨unique, safe⟩
  · rintro ⟨unique, safe⟩
    exact ⟨(), unique, safe⟩

theorem not_escapes_validateMemberNames {handled : Exn → Prop}
    (reported : ∀ text, handled (.releaseError text)) (names : List String)
    (archiveName : String) :
    ¬ Fallible.Escapes handled (validateMemberNames names archiveName) := by
  rw [validateMemberNames, Fallible.escapes_refuseIf_bind (reported _)]
  rintro ⟨-, later⟩
  exact Fallible.not_escapes_refuseEach (fun _ => reported _) names later

/-- `{member.name: member for member in members}` -/
def byName {α : Type} (name : α → String) (members : List α) : Dict String α :=
  members.foldl (fun d member => d.set (name member) member) []

/-- `by_name[name]` -/
def item {α : Type} (d : Dict String α) (name : String) : Except Exn α :=
  match d.get? name with
  | some member => .ok member
  | none => .error (.ofClass .keyError (quoted name))

/-- The required members, each looked up by its name, must be there and be regular. -/
def requireRegular {α : Type} (archiveName : String) (name : α → String) (regular : α → Bool)
    (members : List α) (required : List String) : Except Exn Unit := do
  let missing := sorted (required.filter fun key => key ∉ members.map name)
  Fallible.refuseIf (missing ≠ [])
    (.releaseError s!"{archiveName} missing public files: {quotedList missing}")
  let special ← required.filterM fun key => do
    let member ← item (byName name members) key
    pure (!regular member)
  Fallible.refuseIf (sorted special ≠ [])
    (.releaseError (s!"{archiveName} required members must be regular files: " ++
      quotedList (sorted special)))

section Members

variable {α : Type} {name : α → String}

theorem get?_foldl_set_iff {members : List α} {d : Dict String α} {key : String} {member : α}
    (unique : (members.map name).Nodup) :
    (members.foldl (fun d member => d.set (name member) member) d).get? key = some member ↔
      (member ∈ members ∧ name member = key) ∨
        (key ∉ members.map name ∧ d.get? key = some member) := by
  induction members generalizing d with
  | nil => simp
  | cons first rest ih =>
      rw [List.map_cons, List.nodup_cons] at unique
      rw [List.foldl_cons, ih unique.2, List.map_cons]
      by_cases here : key = name first
      · subst here
        have last :
            (d.set (name first) first).get? (name first) = some member ↔ first = member := by
          rw [Dict.get?, Dict.set, MultiDict.get?_set_self, Option.some.injEq]
        rw [last]
        constructor
        · rintro (⟨later, same⟩ | ⟨-, rfl⟩)
          · exact absurd (same ▸ List.mem_map_of_mem later) unique.1
          · exact .inl ⟨List.mem_cons_self .., rfl⟩
        · rintro (⟨there, same⟩ | ⟨absent, -⟩)
          · rcases List.mem_cons.mp there with rfl | later
            · exact .inr ⟨unique.1, rfl⟩
            · exact absurd (same ▸ List.mem_map_of_mem later) unique.1
          · exact absurd (List.mem_cons_self ..) absent
      · have kept : (d.set (name first) first).get? key = d.get? key := MultiDict.get?_set here
        rw [kept, List.mem_cons, List.mem_cons]
        constructor
        · rintro (⟨later, same⟩ | ⟨absent, found⟩)
          · exact .inl ⟨.inr later, same⟩
          · exact .inr ⟨not_or.mpr ⟨here, absent⟩, found⟩
        · rintro (⟨rfl | later, same⟩ | ⟨absent, found⟩)
          · exact absurd same.symm here
          · exact .inl ⟨later, same⟩
          · exact .inr ⟨(not_or.mp absent).2, found⟩

/-- Under a name that one member has, the dictionary has that member. -/
theorem byName_get?_iff {members : List α} {key : String} {member : α}
    (unique : (members.map name).Nodup) :
    (byName name members).get? key = some member ↔ member ∈ members ∧ name member = key := by
  rw [byName, get?_foldl_set_iff unique]
  apply or_iff_left
  rintro ⟨-, found⟩
  cases found

theorem item_eq_ok {members : List α} {key : String} {member : α}
    (unique : (members.map name).Nodup) :
    item (byName name members) key = .ok member ↔ member ∈ members ∧ name member = key := by
  rw [← byName_get?_iff unique, item]
  cases (byName name members).get? key with
  | none => exact iff_of_false (fun h => by cases h) (fun h => by cases h)
  | some found => simp

/-- Required members are there to be looked up, and the special ones among them are those
that are not regular. -/
theorem special_eq (regular : α → Bool) {members : List α} {required : List String}
    (unique : (members.map name).Nodup) (present : ∀ key ∈ required, key ∈ members.map name) :
    ∃ special, (required.filterM fun key => do
        let member ← item (byName name members) key
        pure (!regular member)) = .ok special ∧
      (special = [] ↔ ∀ member ∈ members, name member ∈ required → regular member = true) := by
  let test (key : String) : Bool :=
    match (byName name members).get? key with
    | some member => !regular member
    | none => false
  refine ⟨required.filter test, Fallible.filterM_of_ok ?_, ?_⟩
  · intro key needed
    obtain ⟨member, there, same⟩ := List.mem_map.mp (present key needed)
    have found := (byName_get?_iff unique).mpr ⟨there, same⟩
    simp only [item, test, found]
    rfl
  · rw [List.filter_eq_nil_iff]
    constructor
    · intro none member there needed
      have found := (byName_get?_iff unique).mpr ⟨there, rfl⟩
      simpa [test, found] using none _ needed
    · intro all key needed
      obtain ⟨member, there, rfl⟩ := List.mem_map.mp (present key needed)
      have found := (byName_get?_iff unique).mpr ⟨there, rfl⟩
      simpa [test, found] using all member there needed

/-- The required names are there, and each of them names a regular member. -/
structure HasRegular (name : α → String) (regular : α → Bool) (members : List α)
    (required : List String) : Prop where
  present : ∀ key ∈ required, key ∈ members.map name
  regular : ∀ member ∈ members, name member ∈ required → regular member = true

theorem not_escapes_item {handled : Exn → Prop} {members : List α} {key : String}
    (unique : (members.map name).Nodup) (present : key ∈ members.map name) :
    ¬ Fallible.Escapes handled (item (byName name members) key) := by
  obtain ⟨member, there, same⟩ := List.mem_map.mp present
  rw [item, (byName_get?_iff unique).mpr ⟨there, same⟩]
  exact Fallible.not_escapes_ok _

theorem requireRegular_cases (archiveName : String) (regular : α → Bool) {members : List α}
    (required : List String) (unique : (members.map name).Nodup) :
    (HasRegular name regular members required ∧
      requireRegular archiveName name regular members required = .ok ()) ∨
    (¬ HasRegular name regular members required ∧ ∃ text,
      requireRegular archiveName name regular members required = .error (.releaseError text)) := by
  rw [requireRegular]
  by_cases present : ∀ key ∈ required, key ∈ members.map name
  · have none : sorted (required.filter fun key => key ∉ members.map name) = [] := by
      rw [sorted_eq_nil, List.filter_eq_nil_iff]
      intro key needed
      simpa using present key needed
    obtain ⟨special, found, exactly⟩ := special_eq regular unique present
    rw [Fallible.refuseIf, if_neg (not_not_intro none), Fallible.ok_bind, found, Fallible.ok_bind,
      Fallible.refuseIf]
    by_cases all : ∀ member ∈ members, name member ∈ required → regular member = true
    · rw [if_neg (not_not_intro (sorted_eq_nil.mpr (exactly.mpr all)))]
      exact .inl ⟨⟨present, all⟩, rfl⟩
    · rw [if_pos fun empty => all (exactly.mp (sorted_eq_nil.mp empty))]
      exact .inr ⟨fun has => all has.regular, _, rfl⟩
  · have some : sorted (required.filter fun key => key ∉ members.map name) ≠ [] := by
      intro empty
      rw [sorted_eq_nil, List.filter_eq_nil_iff] at empty
      exact present fun key needed => by simpa using empty key needed
    rw [Fallible.refuseIf, if_pos some]
    exact .inr ⟨fun has => present has.present, _, rfl⟩

theorem requireRegular_eq_ok {archiveName : String} {regular : α → Bool} {members : List α}
    {required : List String} (unique : (members.map name).Nodup) :
    requireRegular archiveName name regular members required = .ok () ↔
      HasRegular name regular members required := by
  rcases requireRegular_cases archiveName regular required unique with
    ⟨has, passed⟩ | ⟨lacks, text, refused⟩
  · exact iff_of_true passed has
  · exact iff_of_false (fun passed => by cases refused.symm.trans passed) lacks

theorem not_escapes_requireRegular {handled : Exn → Prop}
    (reported : ∀ text, handled (.releaseError text)) {archiveName : String}
    {regular : α → Bool} {members : List α} {required : List String}
    (unique : (members.map name).Nodup) :
    ¬ Fallible.Escapes handled (requireRegular archiveName name regular members required) := by
  rcases requireRegular_cases archiveName regular required unique with
    ⟨-, passed⟩ | ⟨-, text, refused⟩
  · rw [passed]
    exact Fallible.not_escapes_ok _
  · rw [refused, Fallible.escapes_error]
    exact not_not_intro (reported text)

end Members

/-! ### Metadata -/

/-- `contents.decode("utf-8")` -/
def decodeUtf8 (contents : Bytes) : Except Exn String :=
  match String.fromUTF8? contents.toByteArray with
  | some text => .ok text
  | none => .error (.unicodeDecodeError "invalid utf-8")

/-- What is written is read back. -/
theorem decodeUtf8_encodeUtf8 (text : String) : decodeUtf8 (encodeUtf8 text) = .ok text := by
  have bytes : (encodeUtf8 text).toByteArray = text.toByteArray := String.utf8Encode_toList
  rw [decodeUtf8, bytes, String.fromUTF8?, dif_pos text.isValidUTF8]
  rfl

/-- `_validate_metadata` -/
def validateMetadata (lib : Library) (contents : Bytes) (version archiveName : String) :
    Except Exn Unit := do
  let decoded ← Fallible.translating (fun exc => exc.isinstance [.unicodeDecodeError])
    (fun _ => .releaseError s!"{archiveName} metadata is not valid UTF-8") (decodeUtf8 contents)
  let metadata ← lib.parsestr decoded
  Fallible.refuseIf (metadata.defects ≠ [] ∨ ["Name", "Version", "Requires-Python"].any
      fun header => (metadata.headers.getAll header).length ≠ 1)
    (.releaseError s!"{archiveName} metadata is malformed")
  Fallible.refuseIf (metadata.headers.get? "Name" ≠ some "asyncly" ∨
      metadata.headers.get? "Version" ≠ some version)
    (.releaseError s!"{archiveName} name/version metadata mismatch")
  Fallible.refuseIf (metadata.headers.get? "Requires-Python" ≠ some "<4,>=3.10")
    (.releaseError s!"{archiveName} Requires-Python metadata mismatch")

theorem not_escapes_decodeUtf8 {handled : Exn → Prop} {contents : Bytes}
    (expected : ∀ exc, exc.isinstance [.unicodeDecodeError] = true → handled exc) :
    ¬ Fallible.Escapes handled (decodeUtf8 contents) := by
  rintro ⟨exc, failed, free⟩
  rw [decodeUtf8] at failed
  split at failed
  · cases failed
  · exact free (expected exc (Except.error.inj failed ▸ rfl))

/-- Reading the metadata raises what the parser raises, and what its checks raise. -/
theorem escapes_validateMetadata_iff {handled : Exn → Prop}
    (reported : ∀ text, handled (.releaseError text)) {lib : Library} {contents : Bytes}
    {version archiveName : String} :
    Fallible.Escapes handled (validateMetadata lib contents version archiveName) ↔
      ∃ text, decodeUtf8 contents = .ok text ∧ Fallible.Escapes handled (lib.parsestr text) := by
  rw [validateMetadata, Fallible.escapes_bind, or_iff_right]
  · refine exists_congr fun text => ?_
    rw [Fallible.translating_eq_ok]
    refine and_congr_right fun _ => Fallible.escapes_bind_quiet fun metadata => ?_
    rw [Fallible.escapes_refuseIf_bind (reported _), Fallible.escapes_refuseIf_bind (reported _)]
    rintro ⟨-, -, mismatch⟩
    exact Fallible.not_escapes_refuseIf (reported _) mismatch
  · rw [Fallible.escapes_translating fun _ _ => reported _]
    exact not_escapes_decodeUtf8 fun exc expected => .inl expected

end Release

end Asyncly
