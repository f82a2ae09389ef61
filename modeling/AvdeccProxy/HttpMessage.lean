import AvdeccProxy.HeaderLines

/-! Requests and responses as the proxy uses them. `HttpRequest` and `HttpResponse` come from the
`jdksavdecc-mcu` submodule and `formstring` from `Obbligato`; the code reads and writes the fields
below directly, and calls the rest through `HttpLibrary`. What it relies on there is `Documented`. -/

namespace AvdeccProxy

/-- The request target as received is all the proxy reads of a request. -/
structure HttpRequest where
  path : String
  deriving DecidableEq, Repr

structure HttpResponse where
  version : String
  statusCode : String
  reasonPhrase : String
  headers : List String
  content : List UInt8
  deriving DecidableEq, Repr

/-- The octets of a C++ string: a `Char` stands for the `char` of the same code. -/
def octets (text : String) : List UInt8 := text.toList.map fun c => UInt8.ofNat c.toNat

/-- The calls the proxy makes into the HTTP classes of the submodules. -/
structure HttpLibrary where
  /-- `HttpResponse()`. -/
  newResponse : HttpResponse
  setContent : HttpResponse → String → HttpResponse
  /-- `addHeader( line )`. -/
  addHeaderLine : HttpResponse → String → HttpResponse
  /-- `addHeader( name, value )`. -/
  addHeader : HttpResponse → String → String → HttpResponse
  flatten : HttpResponse → List UInt8
  /-- The arguments as the standard output stream prints them. -/
  formstring : List String → String

/-- The documented behaviour of these calls. -/
structure HttpLibrary.Documented (L : HttpLibrary) : Prop where
  newResponse_headers : L.newResponse.headers = []
  newResponse_content : L.newResponse.content = []
  setContent_eq : ∀ response text,
    L.setContent response text = { response with content := octets text }
  addHeaderLine_eq : ∀ response line,
    L.addHeaderLine response line = { response with headers := response.headers ++ [line] }
  addHeader_eq : ∀ response name value,
    L.addHeader response name value =
      { response with headers := response.headers ++ [name ++ ": " ++ value] }
  formstring_eq : ∀ arguments, L.formstring arguments = String.join arguments

section formstring

variable {L : HttpLibrary} (hL : L.Documented) (first second third : String)

include hL

theorem HttpLibrary.Documented.formstring_one : L.formstring [first] = first := by
  rw [hL.formstring_eq]
  simp [String.join]

theorem HttpLibrary.Documented.formstring_two : L.formstring [first, second] = first ++ second := by
  rw [hL.formstring_eq]
  simp [String.join]

theorem HttpLibrary.Documented.formstring_three :
    L.formstring [first, second, third] = first ++ second ++ third := by
  rw [hL.formstring_eq]
  simp [String.join]

end formstring

/-- A library that behaves as documented. -/
def HttpLibrary.plain : HttpLibrary where
  newResponse := ⟨"", "", "", [], []⟩
  setContent response text := { response with content := octets text }
  addHeaderLine response line := { response with headers := response.headers ++ [line] }
  addHeader response name value :=
    { response with headers := response.headers ++ [name ++ ": " ++ value] }
  flatten response :=
    octets (String.join ([response.version, " ", response.statusCode, " ", response.reasonPhrase,
      "\r\n"] ++ response.headers.map (· ++ "\r\n") ++ ["\r\n"])) ++ response.content
  formstring := String.join

theorem HttpLibrary.plain_documented : HttpLibrary.plain.Documented :=
  ⟨rfl, rfl, fun _ _ => rfl, fun _ _ => rfl, fun _ _ _ => rfl, fun _ => rfl⟩

/-- The response's `Content-Length` headers carry the number of octets of its content, once. -/
def HttpResponse.Framed (response : HttpResponse) : Prop :=
  (HeaderLine.valuesOf "Content-Length" response.headers).map HeaderLine.decimalValue =
    [some response.content.length]

end AvdeccProxy
