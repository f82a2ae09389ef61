import AvdeccProxy.HttpAnswers

/-! Where a request goes. A request is for a stored file, for a CGI handler or for the 404 page, and what
is sent can be read off that. Files are looked up under the whole path and CGI handlers under the path
up to its query, so that a query is harmless only where both lookups find the same. -/

namespace AvdeccProxy

/-- The methods the request events of a client answer. -/
inductive HttpMethod where
  | get
  | head
  | post
  deriving DecidableEq, Repr

/-- A request the parser of a client has found. -/
structure IncomingRequest where
  method : HttpMethod
  request : HttpRequest
  deriving DecidableEq, Repr

/-- What a request can be routed to. -/
inductive Resource where
  | file (blob : HttpServerBlob)
  | cgi (handler : HttpServerCgi)
  | notFound

namespace NetworkServiceHttp

section route

variable (L : HttpLibrary) (service : NetworkServiceHttp)

/-- The blob `getHttpFileHeaders` returns, if it returns one; `none` when it is undefined. -/
def routeFile (request : HttpRequest) (otherwise : Resource) : Option Resource :=
  (service.getHttpFileHeaders L request L.newResponse).map fun (content, _) =>
    match content with
    | some blob => .file blob
    | none => otherwise

/-- The handler `findCgiHandler` returns, if it returns one. -/
def routeCgi (request : HttpRequest) : Resource :=
  match service.findCgiHandler request.path with
  | some handler => .cgi handler
  | none => .notFound

/-- The resource a request is handed to: GET asks for a file and then for a CGI handler, HEAD for a file
only, and POST for a CGI handler only. -/
def route (method : HttpMethod) (request : HttpRequest) : Option Resource :=
  match method with
  | .get => service.routeFile L request (service.routeCgi request)
  | .head => service.routeFile L request .notFound
  | .post => some (service.routeCgi request)

end route

variable {L : HttpLibrary} {service : NetworkServiceHttp}

theorem routeFile_found {request : HttpRequest} {blob : HttpServerBlob} (otherwise : Resource)
    (hfind : service.builtinFiles.find request.path = some blob) (hdefined : blob.getContent ≠ none) :
    service.routeFile L request otherwise = some (.file blob) := by
  obtain ⟨content, hcontent⟩ := Option.ne_none_iff_exists'.mp hdefined
  obtain ⟨length, hlength⟩ := blob.getContentLength_of_getContent hcontent
  cases content with
  | none => simp [routeFile, getHttpFileHeaders, hfind, hcontent]
  | some memory => simp [routeFile, getHttpFileHeaders, hfind, hcontent, hlength]

/-- A blob over a null vector pointer leads nowhere. -/
theorem routeFile_undefined {request : HttpRequest} {blob : HttpServerBlob} (otherwise : Resource)
    (hfind : service.builtinFiles.find request.path = some blob) (hcontent : blob.getContent = none) :
    service.routeFile L request otherwise = none := by
  simp [routeFile, getHttpFileHeaders, hfind, hcontent]

theorem routeFile_missing {request : HttpRequest} (otherwise : Resource)
    (hfind : service.builtinFiles.find request.path = none) :
    service.routeFile L request otherwise = some otherwise := by
  rw [routeFile, getHttpFileHeaders_missing hfind]
  rfl

theorem exists_routeFile (hfiles : service.builtinFiles.HasContent) (request : HttpRequest)
    (otherwise : Resource) : ∃ resource, service.routeFile L request otherwise = some resource := by
  cases hfind : service.builtinFiles.find request.path with
  | none => exact ⟨_, routeFile_missing otherwise hfind⟩
  | some blob =>
      obtain ⟨mimeType, content, hstores⟩ := hfiles.stores hfind
      exact ⟨_, routeFile_found otherwise hfind hstores.defined⟩

theorem exists_route (hfiles : service.builtinFiles.HasContent) (method : HttpMethod)
    (request : HttpRequest) : ∃ resource, service.route L method request = some resource := by
  cases method with
  | get => exact exists_routeFile hfiles request _
  | head => exact exists_routeFile hfiles request _
  | post => exact ⟨_, rfl⟩

theorem routeCgi_selected {request : HttpRequest} {handler : HttpServerCgi}
    (hselect : service.findCgiHandler request.path = some handler) :
    service.routeCgi request = .cgi handler := by
  simp only [routeCgi, hselect]

theorem routeCgi_none {request : HttpRequest}
    (hselect : service.findCgiHandler request.path = none) :
    service.routeCgi request = .notFound := by
  simp only [routeCgi, hselect]

end NetworkServiceHttp

open NetworkServiceHttp

/-! ### What is sent -/

namespace StateEventsWithWebServing

/-- The request event of a method. -/
def onIncomingHttpRequest (L : HttpLibrary) (service : NetworkServiceHttp) (method : HttpMethod)
    (request : HttpRequest) : Option (Bool × List HttpResponse) :=
  match method with
  | .get => onIncomingHttpGetRequest L service request
  | .head => onIncomingHttpHeadRequest L service request
  | .post => some (onIncomingHttpPostRequest L service request)

end StateEventsWithWebServing

open StateEventsWithWebServing

/-- What the handler makes of a new response. No HEAD request is handed to a handler. -/
def HttpServerCgi.attempt (L : HttpLibrary) (handler : HttpServerCgi) (method : HttpMethod)
    (request : HttpRequest) : Bool × HttpResponse :=
  match method with
  | .get => handler.onIncomingHttpGetRequest request L.newResponse
  | .head => (false, L.newResponse)
  | .post => handler.onIncomingHttpPostRequest request L.newResponse

/-- The result of the request event, and the response sent, for a request handed to the resource. -/
def Resource.answer (L : HttpLibrary) (method : HttpMethod) (request : HttpRequest) :
    Resource → Bool × List HttpResponse
  | .file blob =>
      (true, [fileResponse blob.getMimeType blob.octets (if method = .head then [] else blob.octets)])
  | .cgi handler =>
      finish L request (handler.attempt L method request).1 (handler.attempt L method request).2
  | .notFound => (true, [(error404 L request L.newResponse).2])

namespace StateEventsWithWebServing

variable {L : HttpLibrary} {service : NetworkServiceHttp}

/-- **Routing.** What a request event sends is the answer of the resource the request is routed to. -/
theorem onIncomingHttpRequest_route (hL : L.Documented) (hfiles : service.builtinFiles.HasContent)
    (method : HttpMethod) (request : HttpRequest) :
    onIncomingHttpRequest L service method request =
      (service.route L method request).map fun resource => resource.answer L method request := by
  cases method with
  | get =>
      cases hfind : service.builtinFiles.find request.path with
      | some blob =>
          obtain ⟨mimeType, content, hstores⟩ := hfiles.stores hfind
          rw [route, routeFile_found _ hfind hstores.defined, Option.map_some, Resource.answer,
            hstores.getMimeType, hstores.octets]
          exact onIncomingHttpGetRequest_file hL hfind hstores
      | none =>
          rw [route, routeFile_missing _ hfind]
          cases hselect : service.findCgiHandler request.path with
          | none =>
              rw [routeCgi_none hselect]
              exact onIncomingHttpGetRequest_nothing hL hfind hselect
          | some handler =>
              rw [routeCgi_selected hselect]
              exact onIncomingHttpGetRequest_cgi hfind hselect
  | head =>
      cases hfind : service.builtinFiles.find request.path with
      | some blob =>
          obtain ⟨mimeType, content, hstores⟩ := hfiles.stores hfind
          rw [route, routeFile_found _ hfind hstores.defined, Option.map_some, Resource.answer,
            hstores.getMimeType, hstores.octets]
          exact onIncomingHttpHeadRequest_file hL hfind hstores
      | none =>
          rw [route, routeFile_missing _ hfind]
          exact onIncomingHttpHeadRequest_noFile hL hfind
  | post =>
      cases hselect : service.findCgiHandler request.path with
      | none =>
          rw [route, routeCgi_none hselect]
          exact congrArg some (onIncomingHttpPostRequest_nothing hL hselect)
      | some handler =>
          rw [route, routeCgi_selected hselect]
          exact congrArg some (onIncomingHttpPostRequest_cgi hselect)

/-- Nothing is undefined in serving files that have content. -/
theorem onIncomingHttpRequest_isSome (hL : L.Documented) (hfiles : service.builtinFiles.HasContent)
    (method : HttpMethod) (request : HttpRequest) :
    (onIncomingHttpRequest L service method request).isSome = true := by
  obtain ⟨resource, hroute⟩ := exists_route (L := L) hfiles method request
  rw [onIncomingHttpRequest_route hL hfiles, hroute]
  rfl

end StateEventsWithWebServing

/-! ### Queries -/

namespace NetworkServiceHttp

/-- The path with a query behind it, as a request target. -/
def withQuery (path query : String) : String := path ++ "?" ++ query

theorem toList_withQuery (path query : String) :
    (withQuery path query).toList = path.toList ++ '?' :: query.toList := by
  rw [withQuery, String.toList_append, String.toList_append, List.append_assoc]
  rfl

theorem findFirstOf_absent {text : String} {c : Char} (h : c ∉ text.toList) :
    findFirstOf text c = -1 := by
  have hnone : text.toList.findIdx? (· == c) = none := List.idxOf?_eq_none_iff.mpr h
  rw [findFirstOf, hnone]

theorem findFirstOf_withQuery {path : String} (hpath : '?' ∉ path.toList) (query : String) :
    findFirstOf (withQuery path query) '?' = path.toList.length := by
  have hnone : path.toList.findIdx? (· == '?') = none := List.idxOf?_eq_none_iff.mpr hpath
  have hfirst : (withQuery path query).toList.findIdx? (· == '?') = some path.toList.length := by
    rw [toList_withQuery, List.findIdx?_append, hnone, List.findIdx?_cons]
    simp
  rw [findFirstOf, hfirst]

theorem truncatedPath_of_noQuery {path : String} (hpath : '?' ∉ path.toList) :
    truncatedPath path = path := by
  rw [truncatedPath, findFirstOf_absent hpath]
  rfl

/-- A query behind a path is cut off, unless the path is empty. -/
theorem truncatedPath_withQuery {path : String} (hpath : '?' ∉ path.toList) (hne : path ≠ "")
    (query : String) : truncatedPath (withQuery path query) = path := by
  have hpos : 0 < (path.toList.length : Int) := by
    have hlength := List.length_pos_iff.mpr (mt String.toList_eq_nil_iff.mp hne)
    omega
  rw [truncatedPath, findFirstOf_withQuery hpath]
  simp only [hpos, if_true, Int.toNat_natCast, toList_withQuery, List.take_left]
  exact String.ofList_toList

theorem truncatedPath_withQuery_empty (query : String) :
    truncatedPath (withQuery "" query) = withQuery "" query := by
  rw [truncatedPath, findFirstOf_withQuery (by decide)]
  rfl

section queries

variable (L : HttpLibrary) (service : NetworkServiceHttp)

/-- The handler stored under exactly the path. -/
def storedHandler (path : String) : Option HttpServerCgi := (service.cgiHandlers path).join

/-- A request of the path with the query goes where a request of the path alone goes. -/
def QueryIgnored (method : HttpMethod) (path query : String) : Prop :=
  ∃ resource, service.route L method ⟨withQuery path query⟩ = some resource ∧
    service.route L method ⟨path⟩ = some resource

/-- The same blob, or none, is stored under the path with and without the query. It is not one over a null
vector pointer. -/
def SameFile (path query : String) : Prop :=
  service.builtinFiles.find (withQuery path query) = service.builtinFiles.find path ∧
    ∀ blob, service.builtinFiles.find path = some blob → blob.getContent ≠ none

/-- The path is not empty, or the same handler, or none, is stored under the bare query and under the
empty path. -/
def SameHandler (path query : String) : Prop :=
  path = "" → service.storedHandler (withQuery "" query) = service.storedHandler ""

/-- The entries of the two maps that a request with the query would miss, or find alone, are not there. -/
def QueryHarmless (method : HttpMethod) (path query : String) : Prop :=
  match method with
  | .get => service.SameFile path query ∧
      (service.builtinFiles.find path = none → service.SameHandler path query)
  | .head => service.SameFile path query
  | .post => service.SameHandler path query

end queries

variable {L : HttpLibrary} {service : NetworkServiceHttp}

theorem findCgiHandler_eq (path : String) :
    service.findCgiHandler path = service.storedHandler (truncatedPath path) := by
  unfold findCgiHandler storedHandler
  cases service.cgiHandlers (truncatedPath path) with
  | none => rfl
  | some handler => rfl

/-- Two requests go to one resource if they find the same file, or neither finds one. -/
theorem routeFile_agree_iff {request request' : HttpRequest} {otherwise otherwise' : Resource}
    (hotherwise : ∀ blob, otherwise ≠ .file blob) (hotherwise' : ∀ blob, otherwise' ≠ .file blob) :
    (∃ resource, service.routeFile L request otherwise = some resource ∧
        service.routeFile L request' otherwise' = some resource) ↔
      (service.builtinFiles.find request.path = service.builtinFiles.find request'.path ∧
        ∀ blob, service.builtinFiles.find request'.path = some blob → blob.getContent ≠ none) ∧
      (service.builtinFiles.find request'.path = none → otherwise = otherwise') := by
  cases hfind : service.builtinFiles.find request.path with
  | none =>
      rw [routeFile_missing otherwise hfind]
      cases hfind' : service.builtinFiles.find request'.path with
      | none =>
          rw [routeFile_missing otherwise' hfind']
          simp [eq_comm]
      | some blob' =>
          by_cases hcontent' : blob'.getContent = none
          · simp [routeFile_undefined otherwise' hfind' hcontent']
          · simp [routeFile_found otherwise' hfind' hcontent', (hotherwise blob').symm]
  | some blob =>
      by_cases hcontent : blob.getContent = none
      · rw [routeFile_undefined otherwise hfind hcontent]
        refine iff_of_false nofun ?_
        rintro ⟨⟨hsame, hdefined⟩, -⟩
        exact hdefined blob hsame.symm hcontent
      rw [routeFile_found otherwise hfind hcontent]
      cases hfind' : service.builtinFiles.find request'.path with
      | none =>
          rw [routeFile_missing otherwise' hfind']
          simp [hotherwise' blob]
      | some blob' =>
          by_cases hcontent' : blob'.getContent = none
          · simp [routeFile_undefined otherwise' hfind' hcontent', hcontent']
          · rw [routeFile_found otherwise' hfind' hcontent']
            constructor
            · rintro ⟨_, ⟨⟩, hsame⟩
              cases hsame
              exact ⟨⟨rfl, fun _ h => by cases h; exact hcontent⟩, nofun⟩
            · rintro ⟨⟨hsame, -⟩, -⟩
              cases hsame
              exact ⟨_, rfl, rfl⟩

theorem routeCgi_ne_file (request : HttpRequest) (blob : HttpServerBlob) :
    service.routeCgi request ≠ .file blob := by
  unfold routeCgi
  cases service.findCgiHandler request.path with
  | none => exact nofun
  | some handler => exact nofun

theorem routeCgi_congr {request request' : HttpRequest} :
    service.routeCgi request = service.routeCgi request' ↔
      service.findCgiHandler request.path = service.findCgiHandler request'.path := by
  unfold routeCgi
  cases service.findCgiHandler request.path with
  | none => cases service.findCgiHandler request'.path <;> simp
  | some handler => cases service.findCgiHandler request'.path <;> simp

/-- The lookup that cuts the path misses the query of the empty path only. -/
theorem routeCgi_eq_iff {path : String} (hpath : '?' ∉ path.toList) (query : String) :
    service.routeCgi ⟨withQuery path query⟩ = service.routeCgi ⟨path⟩ ↔
      service.SameHandler path query := by
  rw [routeCgi_congr, findCgiHandler_eq, findCgiHandler_eq, truncatedPath_of_noQuery hpath]
  unfold SameHandler
  by_cases hne : path = ""
  · subst hne
    rw [truncatedPath_withQuery_empty]
    exact ⟨fun hsame _ => hsame, fun hsame => hsame rfl⟩
  · rw [truncatedPath_withQuery hpath hne]
    exact iff_of_true rfl fun h => absurd h hne

theorem queryIgnored_get (path query : String) :
    service.QueryIgnored L .get path query ↔ service.SameFile path query ∧
      (service.builtinFiles.find path = none →
        service.routeCgi ⟨withQuery path query⟩ = service.routeCgi ⟨path⟩) :=
  routeFile_agree_iff (routeCgi_ne_file _) (routeCgi_ne_file _)

theorem queryIgnored_head (path query : String) :
    service.QueryIgnored L .head path query ↔ service.SameFile path query :=
  (routeFile_agree_iff (by simp) (by simp)).trans (and_iff_left fun _ => rfl)

theorem queryIgnored_post (path query : String) :
    service.QueryIgnored L .post path query ↔
      service.routeCgi ⟨withQuery path query⟩ = service.routeCgi ⟨path⟩ := by
  unfold QueryIgnored route
  simp [eq_comm]

/-- **Queries.** A query changes nothing about where a request goes exactly when no file is stored under
the path or the whole target but the same one, and, for an empty path, no handler either. -/
theorem queryIgnored_iff (L : HttpLibrary) (service : NetworkServiceHttp) (method : HttpMethod)
    (path : String) (hpath : '?' ∉ path.toList) (query : String) :
    service.QueryIgnored L method path query ↔ service.QueryHarmless method path query := by
  cases method with
  | get =>
      rw [queryIgnored_get, routeCgi_eq_iff hpath]
      exact Iff.rfl
  | head => exact queryIgnored_head path query
  | post => exact (queryIgnored_post path query).trans (routeCgi_eq_iff hpath query)

/-- The status page is found with a query behind its path. -/
theorem queryIgnored_iff_status :
    onePage.QueryIgnored .plain .get "/cgi-bin/status" "verbose" :=
  (queryIgnored_iff .plain onePage .get "/cgi-bin/status" (by decide) "verbose").mpr
    ⟨⟨rfl, nofun⟩, fun _ hempty => absurd hempty (by decide)⟩

/-- A stored page is not. -/
theorem index_withQuery_lost :
    onePage.builtinFiles.HasContent ∧ '?' ∉ "/index.html".toList ∧
      ¬ onePage.QueryIgnored .plain .get "/index.html" "v=2" := by
  refine ⟨onePage_hasContent, by decide, fun hsame => ?_⟩
  have hpage : onePage.builtinFiles.find "/index.html" =
      some (.string ⟨"text/html", octets "<html></html>"⟩) := rfl
  have hquery : onePage.builtinFiles.find (withQuery "/index.html" "v=2") = none := rfl
  have hfile : onePage.SameFile "/index.html" "v=2" :=
    ((queryIgnored_get _ _).mp hsame).1
  rw [SameFile, hpage, hquery] at hfile
  cases hfile.1

end NetworkServiceHttp

end AvdeccProxy
