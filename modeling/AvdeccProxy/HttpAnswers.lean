import AvdeccProxy.HttpServer

/-! What the request events send. Each producer of a response (a file, a built-in CGI handler, the 404
page) has one lemma that gives the response it leaves; routing and framing are read off these. -/

namespace AvdeccProxy

open HeaderLine

/-- What a blob stores, kind by kind: its mime type and its octets. A blob over a null pointer stores
nothing, and neither does an empty vector whose `data()` is null. -/
inductive HttpServerBlob.Stores : HttpServerBlob → String → List UInt8 → Prop where
  | raw {mimeType memory contentLength readable} :
      Stores (.raw ⟨mimeType, some memory, contentLength, readable⟩) mimeType
        (memory.take contentLength)
  | vector {mimeType content emptyDataNull} (hdata : content = [] → emptyDataNull = false) :
      Stores (.vector ⟨mimeType, some content, emptyDataNull⟩) mimeType content
  | string {mimeType content} : Stores (.string ⟨mimeType, content⟩) mimeType content

namespace HttpServerBlob

variable {blob : HttpServerBlob} {mimeType : String} {content : List UInt8}

theorem Stores.getMimeType (h : blob.Stores mimeType content) : blob.getMimeType = mimeType := by
  cases h <;> rfl

theorem Stores.getContentLength (h : blob.Stores mimeType content) :
    blob.getContentLength = some content.length := by
  cases h with
  | @raw _ memory contentLength readable =>
      exact congrArg some (by rw [List.length_take, Nat.min_eq_left (readable memory rfl)])
  | vector hdata => rfl
  | string => rfl

/-- The copy of as many octets as the blob declares is what it stores. -/
theorem Stores.getContent (h : blob.Stores mimeType content) :
    ∃ memory, blob.getContent = some (some memory) ∧
      memcpy (some memory) content.length = some content := by
  cases h with
  | @raw _ memory contentLength readable =>
      refine ⟨memory, rfl, ?_⟩
      rw [memcpy, List.length_take, Nat.min_eq_left (readable memory rfl)]
  | vector hdata =>
      refine ⟨content, ?_, by rw [memcpy, List.take_length]⟩
      rw [HttpServerBlob.getContent, Option.map_some, if_neg]
      rintro ⟨hempty, hnull⟩
      rw [hdata hempty] at hnull
      cases hnull
  | string => exact ⟨content, rfl, by rw [memcpy, List.take_length]⟩

/-- The octets a blob serves. -/
def octets (blob : HttpServerBlob) : List UInt8 :=
  match blob.getContent, blob.getContentLength with
  | some (some memory), some length => memory.take length
  | _, _ => []

theorem Stores.octets (h : blob.Stores mimeType content) : blob.octets = content := by
  obtain ⟨memory, hmemory, hcopied⟩ := h.getContent
  rw [HttpServerBlob.octets, hmemory, h.getContentLength]
  exact Option.some.inj hcopied

/-- The length is defined where the content pointer is. -/
theorem getContentLength_of_getContent {pointer : Option (List UInt8)}
    (h : blob.getContent = some pointer) : ∃ length, blob.getContentLength = some length := by
  cases blob with
  | raw blob => exact ⟨_, rfl⟩
  | vector blob =>
      obtain ⟨content, hcontent, -⟩ := Option.map_eq_some_iff.mp h
      exact ⟨_, congrArg (Option.map List.length) hcontent⟩
  | string blob => exact ⟨_, rfl⟩

/-- A blob that stores something can be asked for it. -/
theorem Stores.defined (h : blob.Stores mimeType content) : blob.getContent ≠ none := by
  obtain ⟨memory, hmemory, -⟩ := h.getContent
  rw [hmemory]
  exact nofun

theorem Stores.unique {mimeType' : String} {content' : List UInt8}
    (h : blob.Stores mimeType content) (h' : blob.Stores mimeType' content') :
    mimeType = mimeType' ∧ content = content' := by
  cases h <;> cases h' <;> exact ⟨rfl, rfl⟩

/-- A blob that stores nothing has a null content pointer, or none that is defined. -/
theorem getContent_of_not_stores (h : ∀ mimeType content, ¬ blob.Stores mimeType content) :
    blob.getContent = none ∨ blob.getContent = some none := by
  cases blob with
  | raw blob =>
      obtain ⟨mimeType, _ | memory, contentLength, readable⟩ := blob
      · exact Or.inr rfl
      · exact absurd .raw (h mimeType _)
  | vector blob =>
      obtain ⟨mimeType, _ | content, emptyDataNull⟩ := blob
      · exact Or.inl rfl
      · by_cases hnull : content = [] ∧ emptyDataNull = true
        · exact Or.inr (by rw [getContent, Option.map_some, if_pos hnull])
        · refine absurd (.vector fun hempty => ?_) (h mimeType content)
          exact Bool.eq_false_iff.mpr fun htrue => hnull ⟨hempty, htrue⟩
  | string blob => exact absurd .string (h _ _)

end HttpServerBlob

namespace HttpServerFiles

variable {files : HttpServerFiles} {path : String} {blob : HttpServerBlob}

/-- Every blob of the map stores something. -/
def HasContent (files : HttpServerFiles) : Prop :=
  ∀ path blob, files path = some (some blob) → ∃ mimeType content, blob.Stores mimeType content

theorem find_eq_some : files.find path = some blob ↔ files path = some (some blob) := by
  unfold find
  cases files path with
  | none => exact iff_of_false nofun nofun
  | some found => exact Option.some_inj.symm

theorem find_eq_none : files.find path = none ↔ ∀ blob, files path ≠ some (some blob) := by
  rw [Option.eq_none_iff_forall_ne_some]
  exact forall_congr' fun blob => not_congr find_eq_some

theorem HasContent.stores (h : files.HasContent) (hfind : files.find path = some blob) :
    ∃ mimeType content, blob.Stores mimeType content :=
  h path blob (find_eq_some.mp hfind)

theorem hasContent_empty : HasContent fun _ => none := by
  intro path blob h
  cases h

theorem hasContent_insert {blob : Option HttpServerBlob} (h : files.HasContent)
    (hblob : ∀ b, blob = some b → ∃ mimeType content, b.Stores mimeType content) :
    (files.insert path blob).HasContent := by
  intro other found hfound
  by_cases hpath : other = path
  · subst hpath
    rw [insert, Function.update_self] at hfound
    exact hblob found (Option.some.inj hfound)
  · rw [insert, Function.update_of_ne hpath] at hfound
    exact h other found hfound

end HttpServerFiles

/-- A response a client can make sense of: a status line, and content of the announced length. -/
structure HttpResponse.WellFormed (response : HttpResponse) : Prop where
  version : response.version = "HTTP/1.1"
  statusCode : response.statusCode ≠ ""
  reasonPhrase : response.reasonPhrase ≠ ""
  framed : response.Framed

/-- One `Content-Length` line behind lines of other names frames the content it counts. -/
theorem HttpResponse.framed_of_headers {response : HttpResponse} (lines : List String)
    (hlines : ∀ line ∈ lines, Named "Content-Length" line = false)
    (hheaders : response.headers =
      lines ++ ["Content-Length" ++ ": " ++ toString response.content.length]) :
    response.Framed := by
  have hother : valuesOf "Content-Length" lines = [] := valuesOf_eq_nil hlines
  have hname : ':' ∉ "Content-Length".toList := by decide
  have hlast : valuesOf "Content-Length"
      ["Content-Length" ++ ": " ++ toString response.content.length] =
        [(toString response.content.length).toList] := by
    rw [valuesOf_cons_of_named [] (by rw [named_line _ _ hname]; decide), valuesOf_nil,
      fieldValue_line _ hname, dropWhile_blank_toString]
  rw [HttpResponse.Framed, hheaders, valuesOf_append, hother, hlast, List.nil_append,
    List.map_singleton, decimalValue_toString]

namespace NetworkServiceHttp

variable {L : HttpLibrary} (hL : L.Documented) {service : NetworkServiceHttp}

/-! ### The producers -/

/-- What a file answers, with the content that goes with the method. -/
def fileResponse (mimeType : String) (stored content : List UInt8) : HttpResponse where
  version := "HTTP/1.1"
  statusCode := "200"
  reasonPhrase := "OK"
  headers := ["Connection: Close", "Content-Type: " ++ mimeType,
    "Content-Length" ++ ": " ++ toString stored.length]
  content := content

section file

variable {request : HttpRequest} {blob : HttpServerBlob} {mimeType : String} {content : List UInt8}

include hL in
theorem getHttpFileHeaders_stored (hfind : service.builtinFiles.find request.path = some blob)
    (hstores : blob.Stores mimeType content) (response : HttpResponse) :
    service.getHttpFileHeaders L request response =
      some (some blob, { fileResponse mimeType content response.content with
        headers := response.headers ++ (fileResponse mimeType content []).headers }) := by
  obtain ⟨memory, hmemory, -⟩ := hstores.getContent
  have htype : L.formstring ["Content-Type: ", mimeType] = "Content-Type: " ++ mimeType :=
    hL.formstring_two _ _
  have hlength : L.formstring ["Content-Length: ", toString content.length] =
      "Content-Length" ++ ": " ++ toString content.length := by
    rw [hL.formstring_two, show "Content-Length" ++ ": " = "Content-Length: " by decide]
  rw [getHttpFileHeaders, hfind]
  simp only [hmemory, hstores.getContentLength, hstores.getMimeType, Option.bind_eq_bind,
    Option.bind_some, Option.isSome_some, if_true, htype, hlength, Option.pure_def,
    List.append_assoc, List.cons_append, List.nil_append, fileResponse]

include hL in
theorem getHttpFileHeaders_found (hfind : service.builtinFiles.find request.path = some blob)
    (hstores : blob.Stores mimeType content) :
    service.getHttpFileHeaders L request L.newResponse =
      some (some blob, fileResponse mimeType content []) := by
  rw [getHttpFileHeaders_stored hL hfind hstores, hL.newResponse_headers, hL.newResponse_content]
  rfl

theorem getHttpFileHeaders_missing (hfind : service.builtinFiles.find request.path = none)
    (response : HttpResponse) :
    service.getHttpFileHeaders L request response = some (none, response) := by
  rw [getHttpFileHeaders, hfind]

theorem onIncomingHttpFileGetRequest_missing
    (hfind : service.builtinFiles.find request.path = none) (response : HttpResponse) :
    service.onIncomingHttpFileGetRequest L request response = some (false, response) := by
  rw [onIncomingHttpFileGetRequest, getHttpFileHeaders_missing hfind]
  rfl

theorem onIncomingHttpFileHeadRequest_missing
    (hfind : service.builtinFiles.find request.path = none) (response : HttpResponse) :
    service.onIncomingHttpFileHeadRequest L request response = some (false, response) := by
  rw [onIncomingHttpFileHeadRequest, getHttpFileHeaders_missing hfind]
  rfl

include hL in
theorem onIncomingHttpFileGetRequest_stored
    (hfind : service.builtinFiles.find request.path = some blob)
    (hstores : blob.Stores mimeType content) (response : HttpResponse) :
    service.onIncomingHttpFileGetRequest L request response =
      some (true, { fileResponse mimeType content content with
        headers := response.headers ++ (fileResponse mimeType content []).headers }) := by
  obtain ⟨memory, hmemory, hcopied⟩ := hstores.getContent
  rw [onIncomingHttpFileGetRequest, getHttpFileHeaders_stored hL hfind hstores]
  simp only [hmemory, hstores.getContentLength, hcopied, Option.bind_eq_bind, Option.bind_some,
    Option.pure_def, fileResponse]

include hL in
theorem onIncomingHttpFileGetRequest_found
    (hfind : service.builtinFiles.find request.path = some blob)
    (hstores : blob.Stores mimeType content) :
    service.onIncomingHttpFileGetRequest L request L.newResponse =
      some (true, fileResponse mimeType content content) := by
  rw [onIncomingHttpFileGetRequest_stored hL hfind hstores, hL.newResponse_headers]
  rfl

include hL in
theorem onIncomingHttpFileHeadRequest_stored
    (hfind : service.builtinFiles.find request.path = some blob)
    (hstores : blob.Stores mimeType content) (response : HttpResponse) :
    service.onIncomingHttpFileHeadRequest L request response =
      some (true, { fileResponse mimeType content response.content with
        headers := response.headers ++ (fileResponse mimeType content []).headers }) := by
  rw [onIncomingHttpFileHeadRequest, getHttpFileHeaders_stored hL hfind hstores]
  rfl

include hL in
theorem onIncomingHttpFileHeadRequest_found
    (hfind : service.builtinFiles.find request.path = some blob)
    (hstores : blob.Stores mimeType content) :
    service.onIncomingHttpFileHeadRequest L request L.newResponse =
      some (true, fileResponse mimeType content []) := by
  rw [onIncomingHttpFileHeadRequest, getHttpFileHeaders_found hL hfind hstores]
  rfl

end file

include hL in
theorem error404_eq (request : HttpRequest) (response : HttpResponse) :
    error404 L request response =
      (true,
        { version := "HTTP/1.1"
          statusCode := "404"
          reasonPhrase := "Not Found"
          headers := response.headers ++ ["Connection" ++ ": " ++ "Close",
            "Content-Type" ++ ": " ++ "text/html",
            "Content-Length" ++ ": " ++ toString (octets notFoundPage).length]
          content := octets notFoundPage }) := by
  simp only [error404, hL.setContent_eq, hL.addHeader_eq, hL.addHeaderLine_eq, hL.formstring_three,
    List.append_assoc, List.cons_append, List.nil_append]

theorem octets_notFoundPage_ne_nil : octets notFoundPage ≠ [] := by decide

include hL in
theorem cgiAnswer_eq (text : String) (response : HttpResponse) :
    cgiAnswer L text response =
      (true,
        { version := "HTTP/1.1"
          statusCode := "200"
          reasonPhrase := "OK"
          headers := response.headers ++ ["Content-Type" ++ ": " ++ "application/json",
            "Content-Encoding" ++ ": " ++ "utf-8",
            "Content-Length" ++ ": " ++ toString (octets text).length]
          content := octets text }) := by
  simp only [cgiAnswer, hL.setContent_eq, hL.addHeader_eq, hL.formstring_one, List.append_assoc,
    List.cons_append, List.nil_append]

include hL in
theorem wellFormed_error404 (request : HttpRequest) :
    (error404 L request L.newResponse).2.WellFormed := by
  rw [error404_eq hL, hL.newResponse_headers]
  refine ⟨rfl, by simp, by simp, ?_⟩
  refine HttpResponse.framed_of_headers
    ["Connection" ++ ": " ++ "Close", "Content-Type" ++ ": " ++ "text/html"] ?_ rfl
  decide

include hL in
theorem wellFormed_cgiAnswer (text : String) : (cgiAnswer L text L.newResponse).2.WellFormed := by
  rw [cgiAnswer_eq hL, hL.newResponse_headers]
  refine ⟨rfl, by simp, by simp, ?_⟩
  refine HttpResponse.framed_of_headers ["Content-Type" ++ ": " ++ "application/json",
    "Content-Encoding" ++ ": " ++ "utf-8"] ?_ rfl
  decide

theorem named_contentType (wanted mimeType : String) :
    Named wanted ("Content-Type: " ++ mimeType) =
      ("content-type".toList == wanted.toList.map Char.toLower) := by
  rw [show "Content-Type: " = "Content-Type" ++ ": " by decide,
    named_line wanted mimeType (by decide)]
  rfl

theorem wellFormed_fileResponse (mimeType : String) (content : List UInt8) :
    (fileResponse mimeType content content).WellFormed := by
  refine ⟨rfl, by simp [fileResponse], by simp [fileResponse], ?_⟩
  refine HttpResponse.framed_of_headers
    ["Connection: Close", "Content-Type: " ++ mimeType] ?_ rfl
  intro line hline
  rcases List.mem_pair.mp hline with rfl | rfl
  · decide
  · rw [named_contentType]
    decide

/-- The one `Content-Type` of a file response is the mime type. -/
theorem contentType_fileResponse (mimeType : String) (stored content : List UInt8) :
    (fileResponse mimeType stored content).headers.filter (Named "Content-Type") =
      ["Content-Type: " ++ mimeType] := by
  have hconnection : Named "Content-Type" "Connection: Close" = false := by decide
  have hlength : Named "Content-Type"
      ("Content-Length" ++ ": " ++ toString stored.length) = false := by
    rw [named_line _ _ (by decide)]
    decide
  have htype : Named "Content-Type" ("Content-Type: " ++ mimeType) = true := by
    rw [named_contentType]
    decide
  simp only [fileResponse, List.filter_cons, hconnection, hlength, htype, List.filter_nil,
    if_true, Bool.false_eq_true, if_false]

/-! ### The CGI handlers of the repository -/

theorem repositoryHandlers_addCgiHandler (h : service.RepositoryHandlers L) (location : String)
    {handler : HttpServerCgi} (hhandler : RepositoryHandler L handler) :
    (service.addCgiHandler location (some handler)).RepositoryHandlers L := by
  intro path found hfound
  by_cases hpath : path = location
  · subst hpath
    simp only [addCgiHandler, Function.update_self] at hfound
    cases hfound
    exact hhandler
  · simp only [addCgiHandler, Function.update_of_ne hpath] at hfound
    exact h path found hfound

theorem constructed_repositoryHandlers (L : HttpLibrary) (files : HttpServerFiles) :
    (constructed L files).RepositoryHandlers L := by
  refine repositoryHandlers_addCgiHandler (repositoryHandlers_addCgiHandler ?_ _ ?_) _ ?_
  · intro path handler hhandler
    cases hhandler
  · exact Or.inr (Or.inl rfl)
  · exact Or.inr (Or.inr rfl)

theorem repositoryHandler_of_find (hcgi : service.RepositoryHandlers L) {path : String}
    {handler : HttpServerCgi} (hfind : service.findCgiHandler path = some handler) :
    RepositoryHandler L handler := by
  unfold findCgiHandler at hfind
  split at hfind
  · rename_i found hfound
    subst hfind
    exact hcgi _ handler hfound
  · cases hfind

/-- A handler of the repository that declines leaves the response as it got it. -/
theorem RepositoryHandler.get_cases {handler : HttpServerCgi} (h : RepositoryHandler L handler)
    (request : HttpRequest) (response : HttpResponse) :
    handler.onIncomingHttpGetRequest request response = (false, response) ∨
      ∃ text, handler.onIncomingHttpGetRequest request response = cgiAnswer L text response := by
  rcases h with rfl | rfl | rfl
  · exact Or.inl rfl
  · exact Or.inr ⟨_, rfl⟩
  · exact Or.inr ⟨_, rfl⟩

theorem RepositoryHandler.post_eq {handler : HttpServerCgi} (h : RepositoryHandler L handler)
    (request : HttpRequest) (response : HttpResponse) :
    handler.onIncomingHttpPostRequest request response = (false, response) := by
  rcases h with rfl | rfl | rfl <;> rfl

include hL in
theorem finish_declined (request : HttpRequest) (response : HttpResponse) :
    StateEventsWithWebServing.finish L request false response =
      (true, [(error404 L request response).2]) := by
  rw [StateEventsWithWebServing.finish, if_pos rfl, error404_eq hL]
  rfl

theorem finish_answered (request : HttpRequest) (response : HttpResponse) :
    StateEventsWithWebServing.finish L request true response = (true, [response]) := rfl

end NetworkServiceHttp

/-! ### Routing -/

open NetworkServiceHttp

variable (L : HttpLibrary) (service : NetworkServiceHttp)

/-- The file stored under a path goes before the CGI handler of the path, and that before the 404 page;
each starts from a new response. What a stored file answers is said by its kind of blob. -/
structure GetRoute (request : HttpRequest) (response : HttpResponse) : Prop where
  file : ∀ blob mimeType content, service.builtinFiles request.path = some (some blob) →
    blob.Stores mimeType content →
      service.onIncomingHttpFileGetRequest L request L.newResponse = some (true, response) ∧
        response.statusCode = "200" ∧ response.content = content ∧
        response.headers.filter (Named "Content-Type") = ["Content-Type: " ++ mimeType]
  cgi : (∀ blob, service.builtinFiles request.path ≠ some (some blob)) →
    ∀ handler, service.findCgiHandler request.path = some handler →
      (handler.onIncomingHttpGetRequest request L.newResponse).1 = true →
        response = (handler.onIncomingHttpGetRequest request L.newResponse).2
  notFound : (∀ blob, service.builtinFiles request.path ≠ some (some blob)) →
    (∀ handler, service.findCgiHandler request.path = some handler →
      (handler.onIncomingHttpGetRequest request L.newResponse).1 = false) →
        response = (error404 L request L.newResponse).2

/-- The CGI handler of a path goes before the 404 page; files do not answer POST. -/
structure PostRoute (request : HttpRequest) (response : HttpResponse) : Prop where
  cgi : ∀ handler, service.findCgiHandler request.path = some handler →
    (handler.onIncomingHttpPostRequest request L.newResponse).1 = true →
      response = (handler.onIncomingHttpPostRequest request L.newResponse).2
  notFound : (∀ handler, service.findCgiHandler request.path = some handler →
    (handler.onIncomingHttpPostRequest request L.newResponse).1 = false) →
      response = (error404 L request L.newResponse).2

namespace StateEventsWithWebServing

variable {L service}

theorem onIncomingHttpGetRequest_file (hL : L.Documented) {request : HttpRequest}
    {blob : HttpServerBlob} {mimeType : String} {content : List UInt8}
    (hfind : service.builtinFiles.find request.path = some blob)
    (hstores : blob.Stores mimeType content) :
    onIncomingHttpGetRequest L service request =
      some (true, [fileResponse mimeType content content]) := by
  rw [onIncomingHttpGetRequest, onIncomingHttpFileGetRequest_found hL hfind hstores]
  rfl

theorem onIncomingHttpGetRequest_cgi {request : HttpRequest} {handler : HttpServerCgi}
    (hfind : service.builtinFiles.find request.path = none)
    (hselect : service.findCgiHandler request.path = some handler) :
    onIncomingHttpGetRequest L service request =
      some (finish L request (handler.onIncomingHttpGetRequest request L.newResponse).1
        (handler.onIncomingHttpGetRequest request L.newResponse).2) := by
  rw [onIncomingHttpGetRequest, onIncomingHttpFileGetRequest_missing hfind]
  simp only [onIncomingHttpCgiGetRequest, hselect]

theorem onIncomingHttpGetRequest_nothing (hL : L.Documented) {request : HttpRequest}
    (hfind : service.builtinFiles.find request.path = none)
    (hselect : service.findCgiHandler request.path = none) :
    onIncomingHttpGetRequest L service request =
      some (true, [(error404 L request L.newResponse).2]) := by
  rw [onIncomingHttpGetRequest, onIncomingHttpFileGetRequest_missing hfind]
  simp only [onIncomingHttpCgiGetRequest, hselect, finish_declined hL]

theorem onIncomingHttpPostRequest_cgi {request : HttpRequest} {handler : HttpServerCgi}
    (hselect : service.findCgiHandler request.path = some handler) :
    onIncomingHttpPostRequest L service request =
      finish L request (handler.onIncomingHttpPostRequest request L.newResponse).1
        (handler.onIncomingHttpPostRequest request L.newResponse).2 := by
  simp only [onIncomingHttpPostRequest, onIncomingHttpCgiPostRequest, hselect]

theorem onIncomingHttpPostRequest_nothing (hL : L.Documented) {request : HttpRequest}
    (hselect : service.findCgiHandler request.path = none) :
    onIncomingHttpPostRequest L service request =
      (true, [(error404 L request L.newResponse).2]) := by
  simp only [onIncomingHttpPostRequest, onIncomingHttpCgiPostRequest, hselect, finish_declined hL]

theorem fileResponse_route (hL : L.Documented) {request : HttpRequest} {blob : HttpServerBlob}
    {mimeType : String} {content : List UInt8}
    (hfind : service.builtinFiles.find request.path = some blob)
    (hstores : blob.Stores mimeType content) :
    GetRoute L service request (fileResponse mimeType content content) where
  file := fun found mimeType' content' hfound hstores' => by
    cases hfind.symm.trans (HttpServerFiles.find_eq_some.mpr hfound)
    obtain ⟨rfl, rfl⟩ := hstores.unique hstores'
    exact ⟨onIncomingHttpFileGetRequest_found hL hfind hstores, rfl, rfl,
      contentType_fileResponse _ _ _⟩
  cgi := fun hnone => absurd (HttpServerFiles.find_eq_some.mp hfind) (hnone blob)
  notFound := fun hnone => absurd (HttpServerFiles.find_eq_some.mp hfind) (hnone blob)

theorem onIncomingHttpGetRequest_noFile (hL : L.Documented) (hcgi : service.RepositoryHandlers L)
    {request : HttpRequest} (hfind : service.builtinFiles.find request.path = none) :
    ∃ response, onIncomingHttpGetRequest L service request = some (true, [response]) ∧
      GetRoute L service request response ∧ response.WellFormed := by
  have hnoFile := HttpServerFiles.find_eq_none.mp hfind
  cases hselect : service.findCgiHandler request.path with
  | none =>
      refine ⟨_, onIncomingHttpGetRequest_nothing hL hfind hselect,
        ⟨fun blob _ _ h => absurd h (hnoFile blob), ?_, fun _ _ => rfl⟩,
        wellFormed_error404 hL request⟩
      intro _ handler hhandler
      rw [hselect] at hhandler
      cases hhandler
  | some handler =>
      have hrun := onIncomingHttpGetRequest_cgi hfind hselect (L := L)
      rcases (repositoryHandler_of_find hcgi hselect).get_cases request L.newResponse with
        hdecline | ⟨text, haccept⟩
      · rw [hdecline, finish_declined hL] at hrun
        refine ⟨_, hrun, ⟨fun blob _ _ h => absurd h (hnoFile blob), ?_, fun _ _ => rfl⟩,
          wellFormed_error404 hL request⟩
        intro _ other hother htrue
        cases hselect.symm.trans hother
        rw [hdecline] at htrue
        cases htrue
      · have htrue : (cgiAnswer L text L.newResponse).1 = true := by rw [cgiAnswer_eq hL]
        rw [haccept, htrue, finish_answered] at hrun
        refine ⟨_, hrun, ⟨fun blob _ _ h => absurd h (hnoFile blob), ?_, ?_⟩,
          wellFormed_cgiAnswer hL text⟩
        · intro _ other hother _
          cases hselect.symm.trans hother
          rw [haccept]
        · intro _ hall
          have hfalse := hall handler hselect
          rw [haccept, htrue] at hfalse
          cases hfalse

theorem onIncomingHttpPostRequest_notFound (hL : L.Documented)
    (hcgi : service.RepositoryHandlers L) (request : HttpRequest) :
    onIncomingHttpPostRequest L service request =
      (true, [(error404 L request L.newResponse).2]) := by
  cases hselect : service.findCgiHandler request.path with
  | none => exact onIncomingHttpPostRequest_nothing hL hselect
  | some handler =>
      have hdecline := (repositoryHandler_of_find hcgi hselect).post_eq request L.newResponse
      rw [onIncomingHttpPostRequest_cgi hselect, hdecline]
      exact finish_declined hL request L.newResponse

/-- **Every GET and POST request is answered once.** One response is sent, it comes from the first
producer in line that has an answer, and it is well formed. -/
theorem get_post_answered (hL : L.Documented) (hfiles : service.builtinFiles.HasContent)
    (hcgi : service.RepositoryHandlers L) (request : HttpRequest) :
    (∃ response, onIncomingHttpGetRequest L service request = some (true, [response]) ∧
      GetRoute L service request response ∧ response.WellFormed) ∧
    (∃ response, onIncomingHttpPostRequest L service request = (true, [response]) ∧
      PostRoute L service request response ∧ response.WellFormed) := by
  constructor
  · cases hfind : service.builtinFiles.find request.path with
    | none => exact onIncomingHttpGetRequest_noFile hL hcgi hfind
    | some blob =>
        obtain ⟨mimeType, content, hstores⟩ := hfiles.stores hfind
        exact ⟨_, onIncomingHttpGetRequest_file hL hfind hstores,
          fileResponse_route hL hfind hstores, wellFormed_fileResponse mimeType content⟩
  · refine ⟨_, onIncomingHttpPostRequest_notFound hL hcgi request, ⟨?_, fun _ => rfl⟩,
      wellFormed_error404 hL request⟩
    intro handler hhandler htrue
    rw [(repositoryHandler_of_find hcgi hhandler).post_eq] at htrue
    cases htrue

/-- One stored page beside the two built-in handlers. -/
def onePage : NetworkServiceHttp :=
  .constructed .plain (HttpServerFiles.insert (fun _ => none) "/index.html"
    (some (.string ⟨"text/html", octets "<html></html>"⟩)))

theorem onePage_hasContent : onePage.builtinFiles.HasContent :=
  HttpServerFiles.hasContent_insert HttpServerFiles.hasContent_empty
    (fun _ h => by cases h; exact ⟨_, _, .string⟩)

/-- The page is answered by its blob, the status location by its handler, and neither answers POST. -/
theorem get_post_answered_onePage :
    (∃ response, onIncomingHttpGetRequest .plain onePage ⟨"/index.html"⟩ = some (true, [response]) ∧
      response.content = octets "<html></html>" ∧
      response.headers.filter (Named "Content-Type") = ["Content-Type: text/html"] ∧
      response.WellFormed) ∧
    (∃ response, onIncomingHttpGetRequest .plain onePage ⟨"/cgi-bin/status"⟩ =
        some (true, [response]) ∧
      GetRoute .plain onePage ⟨"/cgi-bin/status"⟩ response ∧ response.WellFormed) ∧
    (∃ response, onIncomingHttpPostRequest .plain onePage ⟨"/index.html"⟩ = (true, [response]) ∧
      PostRoute .plain onePage ⟨"/index.html"⟩ response ∧ response.WellFormed) := by
  have hpage := get_post_answered HttpLibrary.plain_documented onePage_hasContent
    (constructed_repositoryHandlers _ _) ⟨"/index.html"⟩
  have hstatus := get_post_answered HttpLibrary.plain_documented onePage_hasContent
    (constructed_repositoryHandlers _ _) ⟨"/cgi-bin/status"⟩
  obtain ⟨response, hsent, hroute, hwellFormed⟩ := hpage.1
  obtain ⟨-, -, hcontent, htype⟩ := hroute.file _ _ _ rfl .string
  exact ⟨⟨response, hsent, hcontent, htype, hwellFormed⟩, hstatus.1, hpage.2⟩

/-! ### HEAD requests -/

variable (L service)

/-- The response to HEAD is the response to GET without its content. -/
def HeadMatchesGet (request : HttpRequest) : Prop :=
  ∃ r r' get head, onIncomingHttpGetRequest L service request = some (r, [get]) ∧
    onIncomingHttpHeadRequest L service request = some (r', [head]) ∧
    head.version = get.version ∧ head.statusCode = get.statusCode ∧
    head.reasonPhrase = get.reasonPhrase ∧ head.headers = get.headers ∧ head.content = []

variable {L service}

theorem onIncomingHttpHeadRequest_file (hL : L.Documented) {request : HttpRequest}
    {blob : HttpServerBlob} {mimeType : String} {content : List UInt8}
    (hfind : service.builtinFiles.find request.path = some blob)
    (hstores : blob.Stores mimeType content) :
    onIncomingHttpHeadRequest L service request =
      some (true, [fileResponse mimeType content []]) := by
  rw [onIncomingHttpHeadRequest, onIncomingHttpFileHeadRequest_found hL hfind hstores]
  exact congrArg some (finish_answered request _)

theorem onIncomingHttpHeadRequest_noFile (hL : L.Documented) {request : HttpRequest}
    (hfind : service.builtinFiles.find request.path = none) :
    onIncomingHttpHeadRequest L service request =
      some (true, [(error404 L request L.newResponse).2]) := by
  rw [onIncomingHttpHeadRequest, onIncomingHttpFileHeadRequest_missing hfind]
  exact congrArg some (finish_declined hL request L.newResponse)

theorem not_headMatchesGet (hL : L.Documented) {request : HttpRequest}
    (hfind : service.builtinFiles.find request.path = none) :
    ¬ HeadMatchesGet L service request := by
  rintro ⟨r, r', get, head, -, hhead, -, -, -, -, hempty⟩
  rw [onIncomingHttpHeadRequest_noFile hL hfind] at hhead
  cases hhead
  rw [error404_eq hL] at hempty
  exact octets_notFoundPage_ne_nil hempty

/-- **HEAD follows GET on the stored files and nowhere else.** Without a file the answer to HEAD is the
404 page, content included, whatever a CGI handler would have answered to GET. -/
theorem headMatchesGet_iff (hL : L.Documented) (hfiles : service.builtinFiles.HasContent)
    (request : HttpRequest) :
    HeadMatchesGet L service request ↔
      ∃ blob, service.builtinFiles.find request.path = some blob := by
  constructor
  · intro hmatch
    cases hfind : service.builtinFiles.find request.path with
    | some blob => exact ⟨blob, rfl⟩
    | none => exact absurd hmatch (not_headMatchesGet hL hfind)
  · rintro ⟨blob, hfind⟩
    obtain ⟨mimeType, content, hstores⟩ := hfiles.stores hfind
    exact ⟨true, true, _, _, onIncomingHttpGetRequest_file hL hfind hstores,
      onIncomingHttpHeadRequest_file hL hfind hstores, rfl, rfl, rfl, rfl, rfl⟩

theorem headMatchesGet_iff_onePage :
    HeadMatchesGet .plain onePage ⟨"/index.html"⟩ ↔
      ∃ blob, onePage.builtinFiles.find "/index.html" = some blob :=
  headMatchesGet_iff HttpLibrary.plain_documented onePage_hasContent ⟨"/index.html"⟩

/-- The status page is answered by its handler on GET and by the 404 page on HEAD. -/
theorem head_status_differs :
    HttpLibrary.plain.Documented ∧ onePage.builtinFiles.HasContent ∧
      onePage.RepositoryHandlers .plain ∧
      ¬ HeadMatchesGet .plain onePage ⟨"/cgi-bin/status"⟩ :=
  ⟨HttpLibrary.plain_documented, onePage_hasContent, constructed_repositoryHandlers _ _,
    not_headMatchesGet HttpLibrary.plain_documented (by decide)⟩

end StateEventsWithWebServing

end AvdeccProxy
