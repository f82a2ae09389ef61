import AvdeccProxy.HttpMessage
import Mathlib.Logic.Function.Basic

/-! The HTTP side of the proxy: the blobs and files it serves, its CGI handlers, the request methods of
`NetworkService`, and the request events of an `ApsClient`. A `shared_ptr` that may be null is an
`Option`; a pointer to octets is the octets that can be read from it, or `none` when it is null. -/

namespace AvdeccProxy

/-- A blob over memory the caller keeps: at least `contentLength` octets behind a non-null pointer. -/
structure HttpServerBlobRaw where
  mimeType : String
  content : Option (List UInt8)
  contentLength : Nat
  readable : ∀ memory, content = some memory → contentLength ≤ memory.length

/-- A blob over a vector the caller keeps, `none` when the pointer to it is null. The `data()` of an empty
vector is null or not, as the library likes. -/
structure HttpServerBlobVector where
  mimeType : String
  content : Option (List UInt8)
  emptyDataNull : Bool

structure HttpServerBlobString where
  mimeType : String
  content : List UInt8

inductive HttpServerBlob where
  | raw (blob : HttpServerBlobRaw)
  | vector (blob : HttpServerBlobVector)
  | string (blob : HttpServerBlobString)

namespace HttpServerBlob

def getMimeType : HttpServerBlob → String
  | raw blob => blob.mimeType
  | vector blob => blob.mimeType
  | string blob => blob.mimeType

/-- The content pointer. A null vector pointer is dereferenced, which is undefined: `none`. -/
def getContent : HttpServerBlob → Option (Option (List UInt8))
  | raw blob => some blob.content
  | vector blob =>
      blob.content.map fun content => if content = [] ∧ blob.emptyDataNull then none else some content
  | string blob => some (some blob.content)

/-- The length, undefined where the content pointer is. -/
def getContentLength : HttpServerBlob → Option Nat
  | raw blob => some blob.contentLength
  | vector blob => blob.content.map List.length
  | string blob => some blob.content.length

end HttpServerBlob

/-- `std::map<string, shared_ptr<HttpServerBlob>>`. -/
abbrev HttpServerFiles := String → Option (Option HttpServerBlob)

namespace HttpServerFiles

/-- `find`: an absent path and a null blob both read as null. -/
def find (files : HttpServerFiles) (path : String) : Option HttpServerBlob :=
  match files path with
  | some blob => blob
  | none => none

def insert (files : HttpServerFiles) (path : String) (blob : Option HttpServerBlob) :
    HttpServerFiles :=
  Function.update files path (some blob)

end HttpServerFiles

/-- A CGI handler: whether it accepts, and the response as it leaves it. -/
structure HttpServerCgi where
  onIncomingHttpGetRequest : HttpRequest → HttpResponse → Bool × HttpResponse
  onIncomingHttpPostRequest : HttpRequest → HttpResponse → Bool × HttpResponse

/-- The base class declines both methods. -/
def HttpServerCgi.base : HttpServerCgi where
  onIncomingHttpGetRequest _ response := (false, response)
  onIncomingHttpPostRequest _ response := (false, response)

/-- The position `find_first_of` gives, as the `ssize_t` it is stored in. -/
def findFirstOf (text : String) (c : Char) : Int :=
  match text.toList.findIdx? (· == c) with
  | some position => position
  | none => -1

/-- `memcpy` out of a content pointer into a buffer of `length` octets. Copying octets from a null
pointer is undefined. -/
def memcpy (source : Option (List UInt8)) (length : Nat) : Option (List UInt8) :=
  match source with
  | some memory => some (memory.take length)
  | none => if length = 0 then some [] else none

/-- The members of `NetworkService` its request methods read. -/
structure NetworkServiceHttp where
  builtinFiles : HttpServerFiles
  cgiHandlers : String → Option (Option HttpServerCgi)

namespace NetworkServiceHttp

variable (L : HttpLibrary) (service : NetworkServiceHttp)

/-- `none` when the content pointer is undefined. -/
def getHttpFileHeaders (request : HttpRequest) (response : HttpResponse) :
    Option (Option HttpServerBlob × HttpResponse) :=
  match service.builtinFiles.find request.path with
  | none => some (none, response)
  | some blob => do
      let content ← blob.getContent
      if content.isSome then
        let length ← blob.getContentLength
        return (some blob,
          { response with
            headers := response.headers ++ ["Connection: Close"] ++
              [L.formstring ["Content-Type: ", blob.getMimeType]] ++
              [L.formstring ["Content-Length: ", toString length]]
            version := "HTTP/1.1"
            statusCode := "200"
            reasonPhrase := "OK" })
      else return (some blob, response)

/-- `none` when the content pointer or the copy of the content is undefined. -/
def onIncomingHttpFileGetRequest (request : HttpRequest) (response : HttpResponse) :
    Option (Bool × HttpResponse) := do
  let (content, response) ← service.getHttpFileHeaders L request response
  match content with
  | some content =>
      let copied ← memcpy (← content.getContent) (← content.getContentLength)
      return (true, { response with content := copied })
  | none => return (false, response)

def onIncomingHttpFileHeadRequest (request : HttpRequest) (response : HttpResponse) :
    Option (Bool × HttpResponse) := do
  let (content, response) ← service.getHttpFileHeaders L request response
  return (content.isSome, response)

def addCgiHandler (location : String) (handler : Option HttpServerCgi) : NetworkServiceHttp :=
  { service with cgiHandlers := Function.update service.cgiHandlers location (some handler) }

/-- The path up to its first `?`; a path that starts with `?` is kept whole. -/
def truncatedPath (path : String) : String :=
  let pos := findFirstOf path '?'
  if 0 < pos then String.ofList (path.toList.take pos.toNat) else path

def findCgiHandler (path : String) : Option HttpServerCgi :=
  match service.cgiHandlers (truncatedPath path) with
  | some handler => handler
  | none => none

def onIncomingHttpCgiGetRequest (request : HttpRequest) (response : HttpResponse) :
    Bool × HttpResponse :=
  match service.findCgiHandler request.path with
  | some h => h.onIncomingHttpGetRequest request response
  | none => (false, response)

def onIncomingHttpCgiPostRequest (request : HttpRequest) (response : HttpResponse) :
    Bool × HttpResponse :=
  match service.findCgiHandler request.path with
  | some h => h.onIncomingHttpPostRequest request response
  | none => (false, response)

/-- The content of the 404 page, as the source spells it. -/
def notFoundPage : String := "<DOCTYPE html><html lang=\"en\"><h1>Not Found</h1></html>"

def error404 (_request : HttpRequest) (response : HttpResponse) : Bool × HttpResponse :=
  let response := L.setContent response notFoundPage
  let response := L.addHeader response "Connection" "Close"
  let response := L.addHeader response "Content-Type" "text/html"
  let response := L.addHeaderLine response
    (L.formstring ["Content-Length", ": ", toString response.content.length])
  (true, { response with version := "HTTP/1.1", statusCode := "404", reasonPhrase := "Not Found" })

/-- The answer of the two built-in CGI handlers to a GET request, around their content. -/
def cgiAnswer (text : String) (response : HttpResponse) : Bool × HttpResponse :=
  let response := L.addHeader response "Content-Type" "application/json"
  let response := L.addHeader response "Content-Encoding" "utf-8"
  let response :=
    { response with statusCode := "200", reasonPhrase := "OK", version := "HTTP/1.1" }
  let response := L.setContent response text
  (true, L.addHeader response "Content-Length" (L.formstring [toString response.content.length]))

def cgiStatus : HttpServerCgi where
  onIncomingHttpGetRequest _ response := cgiAnswer L "\x7b 1,2,3,4, name: 'a name' \x7d" response
  onIncomingHttpPostRequest _ response := (false, response)

def cgiConfig : HttpServerCgi where
  onIncomingHttpGetRequest _ response := cgiAnswer L "\x7b 5,6,7,8, name: 'some name' \x7d" response
  onIncomingHttpPostRequest _ response := (false, response)

/-- The request members of a constructed `NetworkService`: the files it is given and its two handlers. -/
def constructed (files : HttpServerFiles) : NetworkServiceHttp :=
  let service : NetworkServiceHttp := ⟨files, fun _ => none⟩
  let service := service.addCgiHandler "/cgi-bin/status" (some (cgiStatus L))
  service.addCgiHandler "/cgi-bin/config" (some (cgiConfig L))

/-- The handlers the repository has. -/
def RepositoryHandler (handler : HttpServerCgi) : Prop :=
  handler = HttpServerCgi.base ∨ handler = cgiStatus L ∨ handler = cgiConfig L

/-- Every path of the CGI map leads to a null pointer or to a handler of the repository. -/
def RepositoryHandlers : Prop :=
  ∀ path handler, service.cgiHandlers path = some (some handler) → RepositoryHandler L handler

end NetworkServiceHttp

/-! ### The request events of a client

Each method returns its result and the responses it passes to `sendHttpResponse`, in order. -/

namespace StateEventsWithWebServing

variable (L : HttpLibrary) (service : NetworkServiceHttp)

/-- What the three methods end with: a 404 when nothing has answered, then the response is sent. -/
def finish (request : HttpRequest) (r : Bool) (response : HttpResponse) :
    Bool × List HttpResponse :=
  let (r, response) :=
    if r = false then NetworkServiceHttp.error404 L request response else (r, response)
  (r, if r then [response] else [])

/-- `none` when serving a file is undefined. -/
def onIncomingHttpGetRequest (request : HttpRequest) : Option (Bool × List HttpResponse) :=
  match service.onIncomingHttpFileGetRequest L request L.newResponse with
  | none => none
  | some (true, response) => some (finish L request true response)
  | some (false, response) =>
      let (r, response) := service.onIncomingHttpCgiGetRequest request response
      some (finish L request r response)

def onIncomingHttpHeadRequest (request : HttpRequest) : Option (Bool × List HttpResponse) := do
  let (r, response) ← service.onIncomingHttpFileHeadRequest L request L.newResponse
  return finish L request r response

def onIncomingHttpPostRequest (request : HttpRequest) : Bool × List HttpResponse :=
  let (r, response) := service.onIncomingHttpCgiPostRequest request L.newResponse
  finish L request r response

end StateEventsWithWebServing

end AvdeccProxy
