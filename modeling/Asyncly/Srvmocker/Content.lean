import Asyncly.Client.Typing
import Asyncly.Python.Exceptions
import Asyncly.Python.Values

/-!
# Serialized responses

A response with a serializer is given its content type by a dictionary, which keeps names
that differ in case apart. The headers that are sent are read without regard to case.
-/

namespace Asyncly

/-- A `Mapping` of header names to values: no key repeats. -/
structure HeaderMapping where
  items : Dict String String
  nodup : (items.map Prod.fst).Nodup

/-- Pairs a serialization function with its content type. Bodies, and what they are
serialized to, are objects of `B`. -/
structure Serializer (B : Type) where
  dumps : B → Except Exn B
  contentType : String

/-- `Response(status, body, headers)` -/
structure WebResponse (B : Type) where
  status : Int
  body : B
  headers : Headers

structure ContentResponse (B : Type) where
  body : B
  status : Int := 200
  headers : Option HeaderMapping := none
  serializer : Option (Serializer B) := none

variable {B : Type}

namespace ContentResponse

/-- The headers given by the caller. -/
def given (content : ContentResponse B) : Headers :=
  (content.headers.map HeaderMapping.items).getD []

def serialize (content : ContentResponse B) : Except Exn B :=
  match content.serializer with
  | none => .ok content.body
  | some serializer => serializer.dumps content.body

/-- The headers `response` builds. -/
def responseHeaders (content : ContentResponse B) : Dict String String :=
  let headers : Dict String String :=
    match content.headers with
    | none => []
    | some given => if given.items.isEmpty then [] else MultiDict.update id [] given.items
  match content.serializer with
  | none => headers
  | some serializer => headers.set "Content-Type" serializer.contentType

def response (content : ContentResponse B) : Except Exn (WebResponse B) := do
  let headers := content.responseHeaders
  let body ← content.serialize
  pure ⟨content.status, body, headers⟩

end ContentResponse

/-! ### The formats -/

def jsonSerializer (dumps : B → Except Exn B) : Serializer B := ⟨dumps, "application/json"⟩

def msgpackSerializer (encode : B → Except Exn B) : Serializer B := ⟨encode, "application/msgpack"⟩

def tomlSerializer (dumps : B → Except Exn B) : Serializer B := ⟨dumps, "application/toml"⟩

def yamlSerializer (dump : B → Except Exn B) : Serializer B := ⟨dump, "application/yaml"⟩

section Formats

variable (body : B) (status : Int := 200) (headers : Option HeaderMapping := none)

/-- A response class around the `ContentResponse` of its serializer. -/
def formatResponse (serializer : Serializer B) : ContentResponse B where
  body := body
  status := status
  headers := headers
  serializer := some serializer

/-- `JsonResponse` -/
def jsonResponse (dumps : B → Except Exn B) : ContentResponse B :=
  formatResponse body status headers (jsonSerializer dumps)

/-- `MsgpackResponse` -/
def msgpackResponse (encode : B → Except Exn B) : ContentResponse B :=
  formatResponse body status headers (msgpackSerializer encode)

/-- `TomlResponse` -/
def tomlResponse (dumps : B → Except Exn B) : ContentResponse B :=
  formatResponse body status headers (tomlSerializer dumps)

/-- `YamlResponse` -/
def yamlResponse (dump : B → Except Exn B) : ContentResponse B :=
  formatResponse body status headers (yamlSerializer dump)

inductive Format
  | json | msgpack | toml | yaml
  deriving DecidableEq

/-- The serializer of a format; `dumps` has the functions of the libraries. -/
def Format.serializer (dumps : Format → B → Except Exn B) : Format → Serializer B
  | json => jsonSerializer (dumps json)
  | msgpack => msgpackSerializer (dumps msgpack)
  | toml => tomlSerializer (dumps toml)
  | yaml => yamlSerializer (dumps yaml)

end Formats

/-- The response of a format. -/
def Format.content (dumps : Format → B → Except Exn B) (body : B) (status : Int)
    (headers : Option HeaderMapping) : Format → ContentResponse B
  | json => jsonResponse body status headers (dumps json)
  | msgpack => msgpackResponse body status headers (dumps msgpack)
  | toml => tomlResponse body status headers (dumps toml)
  | yaml => yamlResponse body status headers (dumps yaml)

theorem Format.content_eq (dumps : Format → B → Except Exn B) (format : Format) (body : B)
    (status : Int) (headers : Option HeaderMapping) :
    format.content dumps body status headers =
      formatResponse body status headers (format.serializer dumps) := by
  cases format <;> rfl

/-! ### The content type that is sent -/

/-- Without regard to the case of names, the headers have the content type once, and
otherwise they are those given. -/
structure TypedOnce (contentType : String) (given sent : Headers) : Prop where
  typed : MultiDict.getAll lower "Content-Type" sent = [contentType]
  others : MultiDict.popAll lower "Content-Type" sent = MultiDict.popAll lower "Content-Type" given

/-- `Content-Type` is in no other spelling. -/
def SpelledOut (given : Headers) : Prop :=
  ∀ item ∈ given, lower item.1 = lower "Content-Type" → item.1 = "Content-Type"

instance (given : Headers) : Decidable (SpelledOut given) :=
  inferInstanceAs (Decidable (∀ item ∈ given, _))

namespace ContentResponse

variable {content : ContentResponse B} {serializer : Serializer B} {response : WebResponse B}

theorem responseHeaders_of_serializer (has : content.serializer = some serializer) :
    content.responseHeaders =
      MultiDict.set id "Content-Type" serializer.contentType content.given := by
  obtain ⟨body, status, headers, _⟩ := content
  subst has
  cases headers with
  | none => rfl
  | some mapping =>
      have copied : MultiDict.update id [] mapping.items = mapping.items :=
        MultiDict.update_of_nodup mapping.nodup
      rw [responseHeaders, given]
      dsimp only [Option.map_some, Option.getD_some]
      split
      · rename_i empty
        rw [List.isEmpty_iff.mp empty]
        rfl
      · rw [copied]
        rfl

theorem headers_of_response (built : content.response = .ok response) :
    response.headers = content.responseHeaders := by
  rw [ContentResponse.response] at built
  cases serialized : content.serialize with
  | error exc =>
      rw [serialized] at built
      cases built
  | ok body =>
      rw [serialized] at built
      rw [← Except.ok.inj built]

theorem typedOnce_iff (has : content.serializer = some serializer)
    (built : content.response = .ok response) :
    TypedOnce serializer.contentType content.given response.headers ↔
      SpelledOut content.given := by
  rw [headers_of_response built, responseHeaders_of_serializer has]
  constructor
  · intro once
    exact MultiDict.getAll_set_exact.mp once.typed
  · intro spelled
    exact ⟨MultiDict.getAll_set_exact.mpr spelled, MultiDict.popAll_set_exact⟩

end ContentResponse

/-- A serialized response has one content type exactly when the caller spells that name as
the response does, if at all. -/
theorem serialized_typedOnce_iff :
    (∀ (content : ContentResponse B) (serializer : Serializer B) (response : WebResponse B),
      content.serializer = some serializer → content.response = .ok response →
        (TypedOnce serializer.contentType content.given response.headers ↔
          SpelledOut content.given)) ∧
    ∀ (dumps : Format → B → Except Exn B) (format : Format) (body : B) (status : Int)
      (headers : Option HeaderMapping) (response : WebResponse B),
      (format.content dumps body status headers).response = .ok response →
        (TypedOnce (format.serializer dumps).contentType
            ((headers.map HeaderMapping.items).getD []) response.headers ↔
          SpelledOut ((headers.map HeaderMapping.items).getD [])) := by
  constructor
  · intro content serializer response has built
    exact ContentResponse.typedOnce_iff has built
  · intro dumps format body status headers response built
    rw [Format.content_eq] at built
    have has : (formatResponse body status headers (format.serializer dumps)).serializer =
        some (format.serializer dumps) := rfl
    exact ContentResponse.typedOnce_iff has built

theorem serialized_typedOnce_iff_sample :
    TypedOnce "text/csv" [("Content-Type", "text/plain")] [("Content-Type", "text/csv")] ∧
    TypedOnce "application/json" [("X-Trace", "1")]
      [("X-Trace", "1"), ("Content-Type", "application/json")] := by
  constructor
  · exact (serialized_typedOnce_iff.1
      ⟨"1,2", 200, some ⟨[("Content-Type", "text/plain")], by decide⟩, some ⟨.ok, "text/csv"⟩⟩
      ⟨.ok, "text/csv"⟩ _ rfl rfl).mpr (by decide)
  · exact (serialized_typedOnce_iff.2 (fun _ => .ok) .json "{}" 200
      (some ⟨[("X-Trace", "1")], by decide⟩) _ rfl).mpr (by decide)

/-- A content type in lower case is sent beside the one of the serializer. -/
theorem serialized_typedOnce_fails :
    ∃ response : WebResponse String,
      (jsonResponse "{}" 200 (some ⟨[("content-type", "text/plain")], by decide⟩)
        Except.ok).response = .ok response ∧
      ¬ TypedOnce "application/json" [("content-type", "text/plain")] response.headers := by
  refine ⟨⟨200, "{}", [("content-type", "text/plain"), ("Content-Type", "application/json")]⟩,
    rfl, ?_⟩
  intro once
  exact absurd once.typed (by decide)

end Asyncly
