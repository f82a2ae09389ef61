import AvdeccProxy.HttpRouting
import AvdeccProxy.ServiceOutline

/-! What a response says about its connection, and what the server does with it. The write of every HTTP
response closes the connection when it completes; the file table and the 404 page say so in a header,
and the two built-in CGI handlers do not. -/

namespace AvdeccProxy

open HeaderLine

/-- The response has one `Connection` header with the value `Close`. -/
def HttpResponse.AnnouncesClose (response : HttpResponse) : Prop :=
  (valuesOf "Connection" response.headers).count "Close".toList = 1

/-- One `Connection: Close` line before lines of other names. -/
theorem HttpResponse.announcesClose_of_headers {response : HttpResponse} (lines : List String)
    (hlines : ∀ line ∈ lines, Named "Connection" line = false)
    (hheaders : response.headers = "Connection: Close" :: lines) : response.AnnouncesClose := by
  have hother : valuesOf "Connection" lines = [] := valuesOf_eq_nil hlines
  unfold HttpResponse.AnnouncesClose
  rw [hheaders, valuesOf_cons_of_named lines (by decide), hother]
  decide

namespace NetworkService

open ApsClient Connection

variable {M : Mcu}

/-- Whatever its status, the completion of the write requests `uv_close` of the connection it was made
on, as long as that is the one its handler hosts. -/
def CompletionCloses (M : Mcu) (x : UvWriteContext) : Prop :=
  ∀ (s : NetworkService M) (status : Int) (b : Behaviour M) (k : Connection),
    (s.connections x.apsclient).head? = some k → k.number = x.connection →
      ((s.writeCompleted x status b).connections x.apsclient).head? = some (k.closeRequested true)

/-- A TCP write that succeeded leaves the connection as it was. -/
theorem connections_writeCompleted (s : NetworkService M) {x : UvWriteContext}
    (hcallback : x.callback = .onUvWrite) (b : Behaviour M) (c : ClientPtr) :
    (s.writeCompleted x 0 b).connections c = s.connections c := by
  have hsends := onUvWrite_sends (s := { s with owed := s.owed.erase x }) (A := fun _ => True)
    (x := x) trivial 0 b
  simp only [writeCompleted, hcallback]
  exact hsends.connections c

/-- The completion of an HTTP response closes; that of other data does so only when it failed. -/
theorem completionCloses_iff (x : UvWriteContext) :
    CompletionCloses M x ↔ x.callback = .onUvWriteThenClose := by
  constructor
  · intro hcloses
    by_contra hother
    have hcallback : x.callback = .onUvWrite := by
      cases hx : x.callback with
      | onUvWrite => rfl
      | onUvWriteThenClose => exact absurd hx hother
    have hafter := hcloses
      { constructed M 0 with
        clients := fun _ => { ApsClient.constructed M with
          connections := [.initialised x.connection] } }
      0 (.silent M) (.initialised x.connection) rfl rfl
    rw [connections_writeCompleted _ hcallback] at hafter
    have hcalls := congrArg Connection.closeCalls (Option.some.inj hafter)
    rw [closeRequested_closeCalls] at hcalls
    exact absurd hcalls.symm (Nat.succ_ne_self _)
  · intro hcallback s status b k hhead _
    have hcompleted : s.writeCompleted x status b = (s.completed x).uvClose x.apsclient true := by
      simp only [writeCompleted, hcallback]
      rfl
    rw [hcompleted, head_uvClose, connections_completed, hhead]
    rfl

/-- The context `sendHttpResponse` gives to `uv_write`. -/
theorem sendHttpResponse_context (s : NetworkService M) (c : ClientPtr) (response : HttpResponse)
    (accepted : Bool) :
    ∃ x, (sendHttpResponse s c response accepted).heap = s.heap ++ [x] ∧ x.apsclient = c ∧
      x.connection = s.currentNumber c ∧ x.data = M.flatten response ∧
      x.callback = .onUvWriteThenClose :=
  ⟨_, rfl, rfl, rfl, rfl, rfl⟩

end NetworkService

/-! ### The producers -/

namespace NetworkServiceHttp

theorem fileResponse_announcesClose (mimeType : String) (stored content : List UInt8) :
    (fileResponse mimeType stored content).AnnouncesClose := by
  refine HttpResponse.announcesClose_of_headers _ ?_ rfl
  intro line hline
  rcases List.mem_pair.mp hline with rfl | rfl
  · rw [named_contentType]
    decide
  · rw [named_line _ _ (by decide)]
    decide

variable {L : HttpLibrary} (hL : L.Documented)

include hL

theorem error404_announcesClose (request : HttpRequest) :
    (error404 L request L.newResponse).2.AnnouncesClose := by
  rw [error404_eq hL, hL.newResponse_headers]
  refine HttpResponse.announcesClose_of_headers ["Content-Type" ++ ": " ++ "text/html",
    "Content-Length" ++ ": " ++ toString (octets notFoundPage).length] ?_ rfl
  intro line hline
  rcases List.mem_pair.mp hline with rfl | rfl
  · decide
  · rw [named_line _ _ (by decide)]
    decide

theorem cgiAnswer_not_announcesClose (text : String) :
    ¬ (cgiAnswer L text L.newResponse).2.AnnouncesClose := by
  have hother : valuesOf "Connection" (cgiAnswer L text L.newResponse).2.headers = [] := by
    rw [cgiAnswer_eq hL, hL.newResponse_headers]
    refine valuesOf_eq_nil fun line hline => ?_
    simp only [List.nil_append, List.mem_cons, List.not_mem_nil, or_false] at hline
    rcases hline with rfl | rfl | rfl
    · decide
    · decide
    · rw [named_line _ _ (by decide)]
      decide
  unfold HttpResponse.AnnouncesClose
  rw [hother]
  decide

omit hL

/-- The base class accepts nothing. -/
theorem ne_base_of_accepts (L : HttpLibrary) {handler : HttpServerCgi} (request : HttpRequest)
    {text : String} (haccept : handler.onIncomingHttpGetRequest request L.newResponse =
      cgiAnswer L text L.newResponse) : handler ≠ HttpServerCgi.base := by
  rintro rfl
  cases congrArg Prod.fst haccept

end NetworkServiceHttp

namespace StateEventsWithWebServing

open NetworkServiceHttp NetworkService

/-! ### Every request -/

variable {M : Mcu} {service : NetworkServiceHttp} {method : HttpMethod} {request : HttpRequest}

/-- One response is sent, and whatever connection it is sent on, it announces the close exactly when the
completion of its write requests it. -/
def AnnouncementKept (M : Mcu) (service : NetworkServiceHttp) (method : HttpMethod)
    (request : HttpRequest) : Prop :=
  ∃ r response, onIncomingHttpRequest M.toHttpLibrary service method request = some (r, [response]) ∧
    ∀ (s : NetworkService M) (c : ClientPtr) (accepted : Bool),
      ∃ x, (ApsClient.sendHttpResponse s c response accepted).heap = s.heap ++ [x] ∧
        x.apsclient = c ∧ x.connection = s.currentNumber c ∧ x.data = M.flatten response ∧
        (response.AnnouncesClose ↔ CompletionCloses M x)

/-- Every response is closed behind, so that it must say so. -/
theorem announcementKept_of_sent {r : Bool} {response : HttpResponse}
    (hsent : onIncomingHttpRequest M.toHttpLibrary service method request = some (r, [response])) :
    AnnouncementKept M service method request ↔ response.AnnouncesClose := by
  constructor
  · rintro ⟨r', response', hsent', hkept⟩
    rw [hsent] at hsent'
    cases hsent'
    obtain ⟨x, hheap, -, -, -, hcloses⟩ := hkept (constructed M 0) 0 true
    obtain ⟨x', hheap', -, -, -, hcallback⟩ := sendHttpResponse_context (constructed M 0) 0 response true
    obtain rfl : x = x' := by
      have hsame := hheap.symm.trans hheap'
      exact (List.singleton_inj.mp (List.append_cancel_left hsame))
    exact hcloses.mpr ((completionCloses_iff x).mpr hcallback)
  · intro hannounces
    refine ⟨r, response, hsent, fun s c accepted => ?_⟩
    obtain ⟨x, hheap, hclient, hconnection, hdata, hcallback⟩ :=
      sendHttpResponse_context s c response accepted
    refine ⟨x, hheap, hclient, hconnection, hdata, iff_of_true hannounces ?_⟩
    exact (completionCloses_iff x).mpr hcallback

theorem announcementKept_notFound (hL : M.toHttpLibrary.Documented)
    (hsent : onIncomingHttpRequest M.toHttpLibrary service method request =
      some (true, [(error404 M.toHttpLibrary request M.newResponse).2])) :
    AnnouncementKept M service method request :=
  (announcementKept_of_sent hsent).mpr (error404_announcesClose hL request)

/-- A built-in handler that accepts answers without the header. -/
theorem not_announcementKept_cgi (hL : M.toHttpLibrary.Documented) {handler : HttpServerCgi}
    (hfind : service.builtinFiles.find request.path = none)
    (hselect : service.findCgiHandler request.path = some handler) {text : String}
    (haccept : handler.onIncomingHttpGetRequest request M.newResponse =
      cgiAnswer M.toHttpLibrary text M.newResponse) :
    ¬ AnnouncementKept M service .get request := by
  have hsent : onIncomingHttpRequest M.toHttpLibrary service .get request =
      some (true, [(cgiAnswer M.toHttpLibrary text M.newResponse).2]) := by
    refine (onIncomingHttpGetRequest_cgi hfind hselect).trans ?_
    rw [haccept]
    rfl
  rw [announcementKept_of_sent hsent]
  exact cgiAnswer_not_announcesClose hL text

/-- A file answers GET and HEAD requests with the header. -/
theorem announcementKept_file (hL : M.toHttpLibrary.Documented)
    (hfiles : service.builtinFiles.HasContent) {blob : HttpServerBlob}
    (hfind : service.builtinFiles.find request.path = some blob) (hmethod : method ≠ .post) :
    AnnouncementKept M service method request := by
  obtain ⟨mimeType, content, hstores⟩ := hfiles.stores hfind
  cases method with
  | get =>
      have hsent : onIncomingHttpRequest M.toHttpLibrary service .get request = _ :=
        onIncomingHttpGetRequest_file hL hfind hstores
      exact (announcementKept_of_sent hsent).mpr (fileResponse_announcesClose mimeType content _)
  | head =>
      have hsent : onIncomingHttpRequest M.toHttpLibrary service .head request = _ :=
        onIncomingHttpHeadRequest_file hL hfind hstores
      exact (announcementKept_of_sent hsent).mpr (fileResponse_announcesClose mimeType content _)
  | post => exact absurd rfl hmethod

/-- **Announcing the close.** What is said about the connection is what is done with it, except in the
answers of the two built-in handlers to GET requests. -/
theorem announcementKept_iff (hL : M.toHttpLibrary.Documented)
    (hfiles : service.builtinFiles.HasContent) (hcgi : service.RepositoryHandlers M.toHttpLibrary)
    (method : HttpMethod) (request : HttpRequest) :
    AnnouncementKept M service method request ↔
      (method = .get → service.builtinFiles.find request.path = none →
        ∀ handler, service.findCgiHandler request.path = some handler →
          handler = HttpServerCgi.base) := by
  cases method with
  | get =>
      cases hfind : service.builtinFiles.find request.path with
      | some blob =>
          refine iff_of_true ?_ fun _ hnone => nomatch hnone
          exact announcementKept_file hL hfiles hfind nofun
      | none =>
          cases hselect : service.findCgiHandler request.path with
          | none =>
              refine iff_of_true ?_ fun _ _ _ hnone => nomatch hnone
              exact announcementKept_notFound hL (onIncomingHttpGetRequest_nothing hL hfind hselect)
          | some handler =>
              simp only [Option.some.injEq, forall_eq', forall_const]
              rcases repositoryHandler_of_find hcgi hselect with rfl | rfl | rfl
              · refine iff_of_true (announcementKept_notFound hL ?_) rfl
                refine (onIncomingHttpGetRequest_cgi hfind hselect).trans (congrArg some ?_)
                exact finish_declined hL request M.newResponse
              · exact iff_of_false (not_announcementKept_cgi hL hfind hselect rfl)
                  (ne_base_of_accepts M.toHttpLibrary request rfl)
              · exact iff_of_false (not_announcementKept_cgi hL hfind hselect rfl)
                  (ne_base_of_accepts M.toHttpLibrary request rfl)
  | head =>
      refine iff_of_true ?_ nofun
      cases hfind : service.builtinFiles.find request.path with
      | some blob => exact announcementKept_file hL hfiles hfind nofun
      | none =>
          exact announcementKept_notFound hL (onIncomingHttpHeadRequest_noFile hL hfind)
  | post =>
      refine iff_of_true ?_ nofun
      exact announcementKept_notFound hL
        (congrArg some (onIncomingHttpPostRequest_notFound hL hcgi request))

theorem announcementKept_iff_index : AnnouncementKept .plain onePage .get ⟨"/index.html"⟩ :=
  (announcementKept_iff HttpLibrary.plain_documented onePage_hasContent
    (constructed_repositoryHandlers _ _) .get ⟨"/index.html"⟩).mpr
      fun _ hnone => absurd hnone (by decide)

/-- The status page is sent without the header, and the connection is closed behind it. -/
theorem status_closesUnannounced :
    Mcu.plain.toHttpLibrary.Documented ∧ onePage.builtinFiles.HasContent ∧
      onePage.RepositoryHandlers Mcu.plain.toHttpLibrary ∧
      ¬ AnnouncementKept .plain onePage .get ⟨"/cgi-bin/status"⟩ :=
  ⟨HttpLibrary.plain_documented, onePage_hasContent, constructed_repositoryHandlers _ _,
    not_announcementKept_cgi HttpLibrary.plain_documented (by decide) rfl rfl⟩

end StateEventsWithWebServing

end AvdeccProxy
