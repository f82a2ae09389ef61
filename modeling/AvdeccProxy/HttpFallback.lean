import AvdeccProxy.HttpRouting

/-! What an attempt leaves behind. One response object goes from the file table to a CGI handler to the
404 page, each of which writes to it. A file without content answers with nothing written, and the 404
page keeps the headers of the handler that declined. -/

namespace AvdeccProxy

open HeaderLine

namespace NetworkServiceHttp

variable {L : HttpLibrary} {service : NetworkServiceHttp}

/-! ### Files -/

section agree

variable (L : HttpLibrary) (service : NetworkServiceHttp) (request : HttpRequest)
  (response : HttpResponse)

/-- A file request has answered with the octets a stored blob has by its kind: the status line is set, and
one `Content-Length` header is added, which counts them. -/
structure FileAnswered (content : List UInt8) (r : Bool) (after : HttpResponse) : Prop where
  returned : r = true
  stored : ∃ blob mimeType, service.builtinFiles request.path = some (some blob) ∧
    blob.Stores mimeType content
  version : after.version = "HTTP/1.1"
  statusCode : after.statusCode = "200"
  headers : ∃ added, after.headers = response.headers ++ added ∧
    (valuesOf "Content-Length" added).map decimalValue = [some content.length]

/-- A file request has declined and left the response as it got it. -/
def FileDeclined (r : Bool) (after : HttpResponse) : Prop := r = false ∧ after = response

/-- The GET request of a file reads nothing through a null pointer, and answers with the octets stored or
declines. -/
def FileGetAgrees : Prop :=
  ∃ r after, service.onIncomingHttpFileGetRequest L request response = some (r, after) ∧
    ((∃ content, FileAnswered service request response content r after ∧ after.content = content) ∨
      FileDeclined response r after)

/-- The HEAD request of a file reads nothing through a null pointer, and answers or declines. -/
def FileHeadAgrees : Prop :=
  ∃ r after, service.onIncomingHttpFileHeadRequest L request response = some (r, after) ∧
    ((∃ content, FileAnswered service request response content r after) ∨
      FileDeclined response r after)

/-- A blob stored under the path stores something: it is over no null pointer, and not over an empty
vector whose `data()` is null. -/
def StoredHasContent : Prop :=
  ∀ blob, service.builtinFiles request.path = some (some blob) →
    ∃ mimeType content, blob.Stores mimeType content

end agree

section stored

variable {request : HttpRequest} {response : HttpResponse} {blob : HttpServerBlob}

/-- A blob over a null vector pointer is undefined to ask, and another one that stores nothing is returned
like any other, with nothing written. -/
theorem getHttpFileHeaders_empty (hfind : service.builtinFiles.find request.path = some blob)
    (hnothing : ∀ mimeType content, ¬ blob.Stores mimeType content) (response : HttpResponse) :
    service.getHttpFileHeaders L request response = none ∨
      blob.getContent = some none ∧
        service.getHttpFileHeaders L request response = some (some blob, response) := by
  rw [getHttpFileHeaders, hfind]
  rcases blob.getContent_of_not_stores hnothing with hcontent | hcontent
  · left
    simp [hcontent]
  · right
    simp [hcontent]

theorem fileAnswered_stored {mimeType : String} {content : List UInt8}
    (hfind : service.builtinFiles.find request.path = some blob)
    (hstores : blob.Stores mimeType content) (sent : List UInt8) :
    FileAnswered service request response content true { fileResponse mimeType content sent with
      headers := response.headers ++ (fileResponse mimeType content []).headers } where
  returned := rfl
  stored := ⟨blob, mimeType, HttpServerFiles.find_eq_some.mp hfind, hstores⟩
  version := rfl
  statusCode := rfl
  headers := ⟨(fileResponse mimeType content []).headers, rfl,
    (wellFormed_fileResponse mimeType content).framed⟩

/-- Nothing is answered by writing no header. -/
theorem not_fileAnswered_of_headers {after : HttpResponse} {content : List UInt8} {r : Bool}
    (hheaders : after.headers = response.headers) :
    ¬ FileAnswered service request response content r after := by
  intro hanswered
  obtain ⟨added, happend, hlength⟩ := hanswered.headers
  have hnil : added = [] := by
    rw [hheaders] at happend
    exact List.append_right_eq_self.mp happend.symm
  rw [hnil] at hlength
  cases hlength

/-- An answer without headers to a blob that stores nothing agrees with nothing. -/
theorem not_agrees_of_headers {P : List UInt8 → Prop} {after : HttpResponse}
    (hheaders : after.headers = response.headers) :
    ¬ ((∃ content, FileAnswered service request response content true after ∧ P content) ∨
      FileDeclined response true after) := by
  rintro (⟨_, hanswered, -⟩ | ⟨hfalse, -⟩)
  · exact not_fileAnswered_of_headers hheaders hanswered
  · cases hfalse

theorem storedHasContent_missing (hfind : service.builtinFiles.find request.path = none) :
    StoredHasContent service request :=
  fun blob hblob => absurd hblob (HttpServerFiles.find_eq_none.mp hfind blob)

theorem storedHasContent_found (hfind : service.builtinFiles.find request.path = some blob) :
    StoredHasContent service request ↔ ∃ mimeType content, blob.Stores mimeType content := by
  constructor
  · exact fun hstored => hstored blob (HttpServerFiles.find_eq_some.mp hfind)
  · rintro hblob other hother
    cases hfind.symm.trans (HttpServerFiles.find_eq_some.mpr hother)
    exact hblob

end stored

theorem fileGetAgrees_iff (hL : L.Documented) (request : HttpRequest) (response : HttpResponse) :
    FileGetAgrees L service request response ↔ StoredHasContent service request := by
  cases hfind : service.builtinFiles.find request.path with
  | none =>
      refine iff_of_true ⟨false, response, ?_, Or.inr ⟨rfl, rfl⟩⟩ (storedHasContent_missing hfind)
      exact onIncomingHttpFileGetRequest_missing hfind response
  | some blob =>
      rw [storedHasContent_found hfind]
      by_cases hstored : ∃ mimeType content, blob.Stores mimeType content
      · obtain ⟨mimeType, content, hstores⟩ := hstored
        refine iff_of_true ⟨true, _, onIncomingHttpFileGetRequest_stored hL hfind hstores response,
          Or.inl ⟨content, fileAnswered_stored hfind hstores content, rfl⟩⟩ ⟨_, _, hstores⟩
      · refine iff_of_false ?_ hstored
        simp only [not_exists] at hstored
        rintro ⟨r, after, hrun, hagrees⟩
        rcases getHttpFileHeaders_empty (L := L) hfind hstored response with
          hheaders | ⟨hcontent, hheaders⟩
        · simp [onIncomingHttpFileGetRequest, hheaders] at hrun
        · -- the copy of a positive length is undefined, and that of no octets answers without headers
          obtain ⟨length, hlength⟩ := blob.getContentLength_of_getContent hcontent
          rw [onIncomingHttpFileGetRequest, hheaders] at hrun
          simp only [Option.bind_eq_bind, Option.bind_some, hcontent, hlength, memcpy] at hrun
          by_cases hzero : length = 0
          · simp only [hzero, if_true, Option.bind_some, Option.pure_def, Option.some.injEq,
              Prod.mk.injEq] at hrun
            obtain ⟨rfl, rfl⟩ := hrun
            have hunchanged : { response with content := [] }.headers = response.headers := rfl
            exact not_agrees_of_headers hunchanged hagrees
          · simp [hzero] at hrun

theorem fileHeadAgrees_iff (hL : L.Documented) (request : HttpRequest) (response : HttpResponse) :
    FileHeadAgrees L service request response ↔ StoredHasContent service request := by
  cases hfind : service.builtinFiles.find request.path with
  | none =>
      refine iff_of_true ⟨false, response, ?_, Or.inr ⟨rfl, rfl⟩⟩ (storedHasContent_missing hfind)
      exact onIncomingHttpFileHeadRequest_missing hfind response
  | some blob =>
      rw [storedHasContent_found hfind]
      by_cases hstored : ∃ mimeType content, blob.Stores mimeType content
      · obtain ⟨mimeType, content, hstores⟩ := hstored
        refine iff_of_true ⟨true, _, onIncomingHttpFileHeadRequest_stored hL hfind hstores response,
          Or.inl ⟨content, fileAnswered_stored hfind hstores response.content⟩⟩ ⟨_, _, hstores⟩
      · refine iff_of_false ?_ hstored
        simp only [not_exists] at hstored
        rintro ⟨r, after, hrun, hagrees⟩
        rcases getHttpFileHeaders_empty (L := L) hfind hstored response with hheaders | ⟨-, hheaders⟩
        · simp [onIncomingHttpFileHeadRequest, hheaders] at hrun
        · rw [onIncomingHttpFileHeadRequest, hheaders] at hrun
          simp only [Option.bind_eq_bind, Option.bind_some, Option.isSome_some, Option.pure_def,
            Option.some.injEq, Prod.mk.injEq] at hrun
          obtain ⟨rfl, rfl⟩ := hrun
          exact not_agrees_of_headers (P := fun _ => True) rfl (by simpa using hagrees)

/-- **File requests.** What the file handlers return and what they leave in the response agree, whatever
the response was, exactly when a blob stored under the path stores something. -/
theorem fileRequestsAgree_iff (hL : L.Documented) (request : HttpRequest)
    (response : HttpResponse) :
    FileGetAgrees L service request response ∧ FileHeadAgrees L service request response ↔
      StoredHasContent service request := by
  rw [fileGetAgrees_iff hL, fileHeadAgrees_iff hL, and_self_iff]

/-- A response somebody has written to. -/
def draft : HttpResponse := ⟨"HTTP/1.0", "500", "Error", ["Server: draft"], [1, 2]⟩

theorem fileRequestsAgree_iff_onePage :
    FileGetAgrees .plain StateEventsWithWebServing.onePage ⟨"/index.html"⟩ draft ∧
      FileHeadAgrees .plain StateEventsWithWebServing.onePage ⟨"/index.html"⟩ draft :=
  (fileRequestsAgree_iff HttpLibrary.plain_documented ⟨"/index.html"⟩ draft).mpr
    fun _ hblob => StateEventsWithWebServing.onePage_hasContent _ _ hblob

/-- A blob over no memory is stored beside the two built-in handlers. -/
def emptyFile : NetworkServiceHttp :=
  .constructed .plain (HttpServerFiles.insert (fun _ => none) "/empty.css"
    (some (.raw ⟨"text/css", none, 0, nofun⟩)))

/-- It is answered with nothing written, not even a status line. -/
theorem emptyFile_answersNothing :
    HttpLibrary.plain.Documented ∧
      emptyFile.onIncomingHttpFileGetRequest .plain ⟨"/empty.css"⟩ HttpLibrary.plain.newResponse =
        some (true, HttpLibrary.plain.newResponse) ∧
      ¬ (FileGetAgrees .plain emptyFile ⟨"/empty.css"⟩ HttpLibrary.plain.newResponse ∧
        FileHeadAgrees .plain emptyFile ⟨"/empty.css"⟩ HttpLibrary.plain.newResponse) := by
  refine ⟨HttpLibrary.plain_documented, rfl, fun hagrees => ?_⟩
  have hstored := (fileHeadAgrees_iff HttpLibrary.plain_documented _ _).mp hagrees.2
  obtain ⟨mimeType, content, hstores⟩ := hstored _ rfl
  cases hstores

/-! ### The 404 page -/

/-- The 404 page replaces all of a response but its headers, which it adds to. -/
theorem error404_congr (hL : L.Documented) (request : HttpRequest) {response response' : HttpResponse} :
    (error404 L request response).2 = (error404 L request response').2 ↔
      response.headers = response'.headers := by
  rw [error404_eq hL, error404_eq hL]
  constructor
  · intro hsame
    exact List.append_cancel_right (congrArg HttpResponse.headers hsame)
  · intro hheaders
    rw [hheaders]

end NetworkServiceHttp

namespace StateEventsWithWebServing

open NetworkServiceHttp

variable {L : HttpLibrary} {service : NetworkServiceHttp}

/-- What is sent is the 404 page as it is made from a new response, which has one `Content-Length`. -/
def SendsPlain404 (L : HttpLibrary) (service : NetworkServiceHttp) (method : HttpMethod)
    (request : HttpRequest) : Prop :=
  ∃ r response, onIncomingHttpRequest L service method request = some (r, [response]) ∧
    response = (error404 L request L.newResponse).2 ∧ response.Framed

/-- A handler that declines hands its response on to the 404 page. -/
theorem onIncomingHttpRequest_declined (hL : L.Documented) {method : HttpMethod}
    {request : HttpRequest} {handler : HttpServerCgi}
    (hfind : service.builtinFiles.find request.path = none)
    (hselect : service.findCgiHandler request.path = some handler)
    (hdecline : (handler.attempt L method request).1 = false) :
    onIncomingHttpRequest L service method request =
      some (true, [(error404 L request (handler.attempt L method request).2).2]) := by
  cases method with
  | get =>
      have hget : (handler.onIncomingHttpGetRequest request L.newResponse).1 = false := hdecline
      refine (onIncomingHttpGetRequest_cgi hfind hselect).trans ?_
      rw [hget, finish_declined hL]
      rfl
  | head => exact onIncomingHttpHeadRequest_noFile hL hfind
  | post =>
      have hpost : (handler.onIncomingHttpPostRequest request L.newResponse).1 = false := hdecline
      refine congrArg some ((onIncomingHttpPostRequest_cgi hselect).trans ?_)
      rw [hpost, finish_declined hL]
      rfl

/-- **Declined attempts.** Without a file under the path, a handler that declines leaves no trace in the
404 page sent exactly when it has left the header list of the new response alone. -/
theorem sendsPlain404_iff (hL : L.Documented) (method : HttpMethod) (request : HttpRequest)
    (handler : HttpServerCgi) (hfind : service.builtinFiles.find request.path = none)
    (hselect : service.findCgiHandler request.path = some handler)
    (hdecline : (handler.attempt L method request).1 = false) :
    SendsPlain404 L service method request ↔
      (handler.attempt L method request).2.headers = L.newResponse.headers := by
  unfold SendsPlain404
  rw [onIncomingHttpRequest_declined hL hfind hselect hdecline, ← error404_congr hL request]
  constructor
  · rintro ⟨r, response, hsent, hplain, -⟩
    cases hsent
    exact hplain
  · intro hplain
    exact ⟨true, _, rfl, hplain, hplain ▸ (wellFormed_error404 hL request).framed⟩

/-- A handler that writes the lines given, a status and some content, and then declines. -/
def declining (lines : List String) : HttpServerCgi where
  onIncomingHttpGetRequest _ response :=
    (false, { response with
      headers := response.headers ++ lines, statusCode := "200", content := [1, 2, 3] })
  onIncomingHttpPostRequest _ response :=
    (false, { response with
      headers := response.headers ++ lines, statusCode := "403", content := [4] })

theorem sendsPlain404_iff_noLines :
    SendsPlain404 .plain (onePage.addCgiHandler "/cgi-bin/new" (some (declining []))) .post
      ⟨"/cgi-bin/new"⟩ :=
  (sendsPlain404_iff HttpLibrary.plain_documented .post ⟨"/cgi-bin/new"⟩ (declining []) rfl rfl
    rfl).mpr rfl

/-- The length a handler announced before it declined is sent beside that of the 404 page. -/
theorem declined_announcesLength :
    HttpLibrary.plain.Documented ∧
      ¬ SendsPlain404 .plain
        (onePage.addCgiHandler "/cgi-bin/new" (some (declining ["Content-Length: 3"]))) .get
        ⟨"/cgi-bin/new"⟩ := by
  refine ⟨HttpLibrary.plain_documented, ?_⟩
  rintro ⟨r, response, hsent, hplain, -⟩
  have hdecline : ((declining ["Content-Length: 3"]).attempt .plain .get ⟨"/cgi-bin/new"⟩).1 =
      false := rfl
  rw [onIncomingHttpRequest_declined HttpLibrary.plain_documented rfl rfl hdecline] at hsent
  cases hsent
  have hheaders := (error404_congr HttpLibrary.plain_documented _).mp hplain
  cases hheaders

end StateEventsWithWebServing

end AvdeccProxy
