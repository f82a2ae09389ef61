import AvdeccProxy.HttpRouting

/-! The site of the proxy: the pages `HttpServerContent` loads and the two CGI handlers its constructor
adds. Which targets find a handler is said for every location it can be added under, and the response to
a request is given for every method and every target. -/

namespace AvdeccProxy

open NetworkServiceHttp

variable {L : HttpLibrary}

/-! ### The response to a request -/

/-- What is sent for a request handed to the resource. -/
def Resource.response (L : HttpLibrary) (method : HttpMethod) (request : HttpRequest) :
    Resource → HttpResponse
  | .file blob =>
      fileResponse blob.getMimeType blob.octets (if method = .head then [] else blob.octets)
  | .cgi handler =>
      if (handler.attempt L method request).1 then (handler.attempt L method request).2
      else (error404 L request (handler.attempt L method request).2).2
  | .notFound => (error404 L request L.newResponse).2

theorem Resource.answer_eq (hL : L.Documented) (method : HttpMethod) (request : HttpRequest)
    (resource : Resource) :
    resource.answer L method request = (true, [resource.response L method request]) := by
  cases resource with
  | file blob => rfl
  | cgi handler =>
      cases hattempt : (handler.attempt L method request).1 with
      | false => rw [answer, response, hattempt, finish_declined hL, if_neg Bool.false_ne_true]
      | true => rw [answer, response, hattempt, finish_answered, if_pos rfl]
  | notFound => rfl

namespace NetworkServiceHttp

/-- The response a site has for a request. There is none, here a new one, for a blob it cannot ask. -/
def respond (L : HttpLibrary) (site : NetworkServiceHttp) (q : IncomingRequest) : HttpResponse :=
  match site.route L q.method q.request with
  | some resource => resource.response L q.method q.request
  | none => L.newResponse

variable {site : NetworkServiceHttp} {location path : String}

/-- A request event returns true and sends the one response the site has for the request. -/
theorem onIncomingHttpRequest_respond (hL : L.Documented) (hfiles : site.builtinFiles.HasContent)
    (q : IncomingRequest) :
    StateEventsWithWebServing.onIncomingHttpRequest L site q.method q.request =
      some (true, [site.respond L q]) := by
  obtain ⟨resource, hroute⟩ := exists_route (L := L) hfiles q.method q.request
  rw [StateEventsWithWebServing.onIncomingHttpRequest_route hL hfiles, respond, hroute,
    Option.map_some, Resource.answer_eq hL]

/-! ### Where a handler is found -/

/-- The targets a handler added under the location is found for. Of a location with a `?` in it there are
none, unless it starts with it. -/
def Reaches (location path : String) : Prop :=
  ('?' ∉ location.toList ∧
      (path = location ∨ location ≠ "" ∧ ∃ query, path = withQuery location query)) ∨
    ∃ query, location = withQuery "" query ∧ path = location

/-- A target has no query, is a query, or is a path with a query. -/
theorem target_cases (path : String) :
    '?' ∉ path.toList ∨ (∃ query, path = withQuery "" query) ∨
      ∃ start query, start ≠ "" ∧ '?' ∉ start.toList ∧ path = withQuery start query := by
  by_cases hquery : '?' ∈ path.toList
  swap
  · exact Or.inl hquery
  obtain ⟨front, rest, hsplit, hfirst⟩ := List.eq_append_cons_of_mem hquery
  have hpath : path = withQuery (String.ofList front) (String.ofList rest) := by
    apply String.toList_injective
    rw [toList_withQuery, String.toList_ofList, String.toList_ofList, hsplit]
  by_cases hempty : String.ofList front = ""
  · exact Or.inr (Or.inl ⟨String.ofList rest, hempty ▸ hpath⟩)
  · refine Or.inr (Or.inr ⟨String.ofList front, String.ofList rest, hempty, ?_, hpath⟩)
    rw [String.toList_ofList]
    exact hfirst

theorem mem_withQuery (path query : String) : '?' ∈ (withQuery path query).toList := by
  rw [toList_withQuery]
  exact List.mem_append_right _ List.mem_cons_self

theorem withQuery_inj {start start' query query' : String} (hstart : '?' ∉ start.toList)
    (hstart' : '?' ∉ start'.toList) (h : withQuery start query = withQuery start' query') :
    start = start' := by
  have hlength : start.toList.length = start'.toList.length := by
    have hfirst := findFirstOf_withQuery hstart query
    rw [h, findFirstOf_withQuery hstart'] at hfirst
    exact (Int.natCast_inj.mp hfirst).symm
  have hlists := congrArg String.toList h
  rw [toList_withQuery, toList_withQuery] at hlists
  exact String.toList_injective (List.append_inj_left hlists hlength)

theorem truncatedPath_eq_iff (path location : String) :
    truncatedPath path = location ↔ Reaches location path := by
  rcases target_cases path with hplain | ⟨query, rfl⟩ | ⟨start, query, hne, hstart, rfl⟩
  · rw [truncatedPath_of_noQuery hplain]
    constructor
    · rintro rfl
      exact Or.inl ⟨hplain, Or.inl rfl⟩
    · rintro (⟨-, heq | ⟨-, query, rfl⟩⟩ | ⟨query, rfl, rfl⟩)
      · exact heq
      · exact absurd (mem_withQuery _ _) hplain
      · exact absurd (mem_withQuery _ _) hplain
  · rw [truncatedPath_withQuery_empty]
    constructor
    · rintro rfl
      exact Or.inr ⟨query, rfl, rfl⟩
    · rintro (⟨hlocation, heq | ⟨hne, query', heq⟩⟩ | ⟨-, -, heq⟩)
      · exact heq
      · exact absurd (withQuery_inj (by decide) hlocation heq).symm hne
      · exact heq
  · rw [truncatedPath_withQuery hstart hne]
    constructor
    · rintro rfl
      exact Or.inl ⟨hstart, Or.inr ⟨hne, query, rfl⟩⟩
    · rintro (⟨hlocation, heq | ⟨-, query', heq⟩⟩ | ⟨query', rfl, heq⟩)
      · exact absurd (heq ▸ mem_withQuery start query) hlocation
      · exact withQuery_inj hstart hlocation heq
      · exact absurd (withQuery_inj hstart (by decide) heq) hne

theorem findCgiHandler_addCgiHandler (site : NetworkServiceHttp) (location : String)
    (handler : Option HttpServerCgi) (path : String) :
    (site.addCgiHandler location handler).findCgiHandler path =
      if truncatedPath path = location then handler else site.findCgiHandler path := by
  by_cases hpath : truncatedPath path = location
  · simp only [findCgiHandler, addCgiHandler, hpath, Function.update_self, if_true]
  · simp only [findCgiHandler, addCgiHandler, Function.update_of_ne hpath, hpath, if_false]

/-- **Registration.** A handler added under a location is found for the targets the location reaches, in
place of what was there, and nothing changes for any other target. It is found for none at all exactly
when the location has a `?` behind some path. -/
theorem addCgiHandler_reaches (site : NetworkServiceHttp) (location : String)
    (handler : Option HttpServerCgi) :
    (∀ path, Reaches location path →
      (site.addCgiHandler location handler).findCgiHandler path = handler) ∧
    (∀ path, ¬ Reaches location path →
      (site.addCgiHandler location handler).findCgiHandler path = site.findCgiHandler path) ∧
    ((∀ path, ¬ Reaches location path) ↔
      ∃ start query, start ≠ "" ∧ '?' ∉ start.toList ∧ location = withQuery start query) := by
  refine ⟨fun path hreaches => ?_, fun path hreaches => ?_, ?_⟩
  · rw [findCgiHandler_addCgiHandler, if_pos ((truncatedPath_eq_iff path location).mpr hreaches)]
  · rw [findCgiHandler_addCgiHandler, if_neg (mt (truncatedPath_eq_iff path location).mp hreaches)]
  · constructor
    · intro hnone
      rcases target_cases location with hplain | ⟨query, hquery⟩ | hbehind
      · exact absurd (Or.inl ⟨hplain, Or.inl rfl⟩) (hnone location)
      · exact absurd (Or.inr ⟨query, hquery, rfl⟩) (hnone location)
      · exact hbehind
    · rintro ⟨start, query, hne, hstart, rfl⟩ path (⟨hlocation, -⟩ | ⟨query', heq, -⟩)
      · exact hlocation (mem_withQuery start query)
      · exact hne (withQuery_inj hstart (by decide) heq)

end NetworkServiceHttp

/-! ### The pages -/

/-- The arrays of `HttpServerContent/all_content.h`, with the lengths it states. -/
structure HttpServerContentData where
  indexHtml : List UInt8
  themeCss : List UInt8
  logoPng : List UInt8
  indexHtml_length : indexHtml.length = 1890
  themeCss_length : themeCss.length = 2258
  logoPng_length : logoPng.length = 9806

/-- Arrays of zeros. -/
def HttpServerContentData.plain : HttpServerContentData where
  indexHtml := List.replicate 1890 0
  themeCss := List.replicate 2258 0
  logoPng := List.replicate 9806 0
  indexHtml_length := List.length_replicate
  themeCss_length := List.length_replicate
  logoPng_length := List.length_replicate

/-- The overload for memory the caller keeps. -/
def makeHttpServerBlob (mimeType : String) (content : List UInt8) (contentLength : Nat)
    (h : content.length = contentLength) : Option HttpServerBlob :=
  some (.raw ⟨mimeType, some content, contentLength, fun _ heq => by cases heq; omega⟩)

/-- `HttpServerContent::load`. What the map held before is cleared. -/
def HttpServerContent.load (data : HttpServerContentData) (_content : HttpServerFiles) :
    HttpServerFiles :=
  let content : HttpServerFiles := fun _ => none
  let content := content.insert "/"
    (makeHttpServerBlob "text/html" data.indexHtml 1890 data.indexHtml_length)
  let content := content.insert "/index.html"
    (makeHttpServerBlob "text/html" data.indexHtml 1890 data.indexHtml_length)
  let content := content.insert "/theme.css"
    (makeHttpServerBlob "text/css" data.themeCss 2258 data.themeCss_length)
  content.insert "/logo.png"
    (makeHttpServerBlob "image/png" data.logoPng 9806 data.logoPng_length)

/-- The request members of the proxy's `NetworkService`. -/
def proxySite (L : HttpLibrary) (data : HttpServerContentData) : NetworkServiceHttp :=
  .constructed L (HttpServerContent.load data fun _ => none)

/-! ### What the site is for -/

/-- A page: where it is, and what. -/
structure Page where
  path : String
  mimeType : String
  content : List UInt8

def Page.response (page : Page) (method : HttpMethod) : HttpResponse where
  version := "HTTP/1.1"
  statusCode := "200"
  reasonPhrase := "OK"
  headers := ["Connection: Close", "Content-Type: " ++ page.mimeType,
    "Content-Length: " ++ toString page.content.length]
  content := if method = .head then [] else page.content

def HttpServerContentData.pages (data : HttpServerContentData) : List Page :=
  [⟨"/", "text/html", data.indexHtml⟩, ⟨"/index.html", "text/html", data.indexHtml⟩,
    ⟨"/theme.css", "text/css", data.themeCss⟩, ⟨"/logo.png", "image/png", data.logoPng⟩]

def jsonResponse (text : String) : HttpResponse where
  version := "HTTP/1.1"
  statusCode := "200"
  reasonPhrase := "OK"
  headers := ["Content-Type: application/json", "Content-Encoding: utf-8",
    "Content-Length: " ++ toString (octets text).length]
  content := octets text

/-- The locations of the CGI handlers, with what they say. -/
def cgiTexts : List (String × String) :=
  [("/cgi-bin/status", "\x7b 1,2,3,4, name: 'a name' \x7d"),
    ("/cgi-bin/config", "\x7b 5,6,7,8, name: 'some name' \x7d")]

def notFoundResponse : HttpResponse where
  version := "HTTP/1.1"
  statusCode := "404"
  reasonPhrase := "Not Found"
  headers := ["Connection: Close", "Content-Type: text/html",
    "Content-Length: " ++ toString (octets notFoundPage).length]
  content := octets notFoundPage

/-! ### The code's site is that site -/

namespace NetworkServiceHttp

variable {data : HttpServerContentData} {page : Page} {path : String}

theorem find_insert (files : HttpServerFiles) (location : String) (blob : Option HttpServerBlob)
    (path : String) :
    (files.insert location blob).find path = if path = location then blob else files.find path := by
  by_cases hpath : path = location
  · simp only [HttpServerFiles.find, HttpServerFiles.insert, hpath, Function.update_self, if_true]
  · simp only [HttpServerFiles.find, HttpServerFiles.insert, Function.update_of_ne hpath, hpath,
      if_false]

theorem load_hasContent (data : HttpServerContentData) (content : HttpServerFiles) :
    (HttpServerContent.load data content).HasContent := by
  have hblob : ∀ {mimeType memory length h}, ∀ b : HttpServerBlob,
      makeHttpServerBlob mimeType memory length h = some b →
        ∃ mimeType content, b.Stores mimeType content := by
    rintro mimeType memory length h b ⟨rfl⟩
    exact ⟨_, _, .raw⟩
  exact HttpServerFiles.hasContent_insert (HttpServerFiles.hasContent_insert
    (HttpServerFiles.hasContent_insert (HttpServerFiles.hasContent_insert
      HttpServerFiles.hasContent_empty hblob) hblob) hblob) hblob

theorem stores_makeHttpServerBlob (mimeType : String) (memory : List UInt8) {length : Nat}
    (hlength : memory.length = length) {blob : HttpServerBlob}
    (hblob : makeHttpServerBlob mimeType memory length hlength = some blob) :
    blob.Stores mimeType memory := by
  subst hlength
  cases hblob
  have hstores : ∀ readable, HttpServerBlob.Stores
      (.raw ⟨mimeType, some memory, memory.length, readable⟩) mimeType (memory.take memory.length) :=
    fun _ => .raw
  simp only [List.take_length] at hstores
  exact hstores _

/-- The blob of a page stores the page. -/
theorem load_page (content : HttpServerFiles) (hpage : page ∈ data.pages) :
    ∃ blob, (HttpServerContent.load data content).find page.path = some blob ∧
      blob.Stores page.mimeType page.content := by
  simp only [HttpServerContentData.pages, List.mem_cons, List.not_mem_nil, or_false] at hpage
  rcases hpage with rfl | rfl | rfl | rfl
  · exact ⟨_, rfl, stores_makeHttpServerBlob "text/html" _ data.indexHtml_length rfl⟩
  · exact ⟨_, rfl, stores_makeHttpServerBlob "text/html" _ data.indexHtml_length rfl⟩
  · exact ⟨_, rfl, stores_makeHttpServerBlob "text/css" _ data.themeCss_length rfl⟩
  · exact ⟨_, rfl, stores_makeHttpServerBlob "image/png" _ data.logoPng_length rfl⟩

theorem load_missing (content : HttpServerFiles) (hpath : ∀ page ∈ data.pages, path ≠ page.path) :
    (HttpServerContent.load data content).find path = none := by
  have hne : path ≠ "/" ∧ path ≠ "/index.html" ∧ path ≠ "/theme.css" ∧ path ≠ "/logo.png" := by
    simpa [HttpServerContentData.pages] using hpath
  simp only [HttpServerContent.load, find_insert, hne, if_false]
  rfl

theorem findCgiHandler_proxySite (path : String) :
    (proxySite L data).findCgiHandler path =
      if truncatedPath path = "/cgi-bin/config" then some (cgiConfig L)
      else if truncatedPath path = "/cgi-bin/status" then some (cgiStatus L) else none := by
  rw [proxySite, constructed, findCgiHandler_addCgiHandler, findCgiHandler_addCgiHandler]
  rfl

theorem error404_new (hL : L.Documented) (request : HttpRequest) :
    (error404 L request L.newResponse).2 = notFoundResponse := by
  rw [error404_eq hL, hL.newResponse_headers]
  have hlines : ["Connection" ++ ": " ++ "Close", "Content-Type" ++ ": " ++ "text/html"] =
      ["Connection: Close", "Content-Type: text/html"] := by decide
  have hlength : "Content-Length" ++ ": " = "Content-Length: " := by decide
  simp only [List.cons.injEq] at hlines
  simp only [notFoundResponse, hlines, hlength, List.nil_append]

theorem cgiAnswer_new (hL : L.Documented) (text : String) :
    cgiAnswer L text L.newResponse = (true, jsonResponse text) := by
  rw [cgiAnswer_eq hL, hL.newResponse_headers]
  have hlines : ["Content-Type" ++ ": " ++ "application/json",
      "Content-Encoding" ++ ": " ++ "utf-8"] =
      ["Content-Type: application/json", "Content-Encoding: utf-8"] := by decide
  have hlength : "Content-Length" ++ ": " = "Content-Length: " := by decide
  simp only [List.cons.injEq] at hlines
  simp only [jsonResponse, hlines, hlength, List.nil_append]

section respond

variable {site : NetworkServiceHttp} {q : IncomingRequest}

theorem respond_file {blob : HttpServerBlob} {mimeType : String} {content : List UInt8}
    (hpost : q.method ≠ .post)
    (hfind : site.builtinFiles.find q.request.path = some blob)
    (hstores : blob.Stores mimeType content) :
    site.respond L q =
      fileResponse mimeType content (if q.method = .head then [] else content) := by
  cases hmethod : q.method with
  | get =>
      simp only [respond, route, hmethod, routeFile_found _ hfind hstores.defined, Resource.response,
        hstores.getMimeType, hstores.octets]
  | head =>
      simp only [respond, route, hmethod, routeFile_found _ hfind hstores.defined, Resource.response,
        hstores.getMimeType, hstores.octets]
  | post => exact absurd hmethod hpost

theorem respond_cgi {handler : HttpServerCgi} {response : HttpResponse} (hget : q.method = .get)
    (hfind : site.builtinFiles.find q.request.path = none)
    (hselect : site.findCgiHandler q.request.path = some handler)
    (hanswer : handler.onIncomingHttpGetRequest q.request L.newResponse = (true, response)) :
    site.respond L q = response := by
  simp only [respond, route, hget, routeFile_missing _ hfind, routeCgi_selected hselect,
    Resource.response, HttpServerCgi.attempt, hanswer, if_true]

/-- No file, and no handler that takes the request. -/
theorem respond_nothing (hfile : q.method ≠ .post → site.builtinFiles.find q.request.path = none)
    (hget : q.method = .get → site.findCgiHandler q.request.path = none)
    (hpost : ∀ handler, site.findCgiHandler q.request.path = some handler →
      handler.onIncomingHttpPostRequest q.request L.newResponse = (false, L.newResponse)) :
    site.respond L q = (error404 L q.request L.newResponse).2 := by
  cases hmethod : q.method with
  | get =>
      have hnone := hfile (by simp [hmethod])
      simp only [respond, route, hmethod, routeFile_missing _ hnone, routeCgi_none (hget hmethod),
        Resource.response]
  | head =>
      have hnone := hfile (by simp [hmethod])
      simp only [respond, route, hmethod, routeFile_missing _ hnone, Resource.response]
  | post =>
      cases hselect : site.findCgiHandler q.request.path with
      | none => simp only [respond, route, hmethod, routeCgi_none hselect, Resource.response]
      | some handler =>
          simp only [respond, route, hmethod, routeCgi_selected hselect, Resource.response,
            HttpServerCgi.attempt, hpost handler hselect, Bool.false_eq_true, if_false]

end respond

theorem fileResponse_page (page : Page) (method : HttpMethod) :
    fileResponse page.mimeType page.content (if method = .head then [] else page.content) =
      page.response method := by
  have hheader : "Content-Length" ++ ": " = "Content-Length: " := by decide
  simp only [fileResponse, Page.response, hheader]

/-- No page stands where a CGI handler is found. -/
theorem page_ne_of_reaches (hpage : page ∈ data.pages) {location text : String}
    (hentry : (location, text) ∈ cgiTexts) (hreaches : Reaches location path) : path ≠ page.path := by
  rintro rfl
  have hlocation := (truncatedPath_eq_iff _ _).mpr hreaches
  have hapart : ∀ path ∈ ["/", "/index.html", "/theme.css", "/logo.png"],
      ∀ entry ∈ cgiTexts, truncatedPath path ≠ entry.1 := by decide
  refine hapart page.path ?_ _ hentry hlocation
  simp only [HttpServerContentData.pages, List.mem_cons, List.not_mem_nil, or_false] at hpage
  rcases hpage with rfl | rfl | rfl | rfl <;> simp

theorem proxySite_text (hL : L.Documented) {location text : String}
    (hentry : (location, text) ∈ cgiTexts) (hreaches : Reaches location path) :
    ∃ handler, (proxySite L data).findCgiHandler path = some handler ∧
      ∀ request, handler.onIncomingHttpGetRequest request L.newResponse =
        (true, jsonResponse text) := by
  have hlocation := (truncatedPath_eq_iff _ _).mpr hreaches
  simp only [cgiTexts, List.mem_cons, Prod.mk.injEq, List.not_mem_nil, or_false] at hentry
  rw [findCgiHandler_proxySite, hlocation]
  rcases hentry with ⟨rfl, rfl⟩ | ⟨rfl, rfl⟩
  · exact ⟨cgiStatus L, rfl, fun _ => cgiAnswer_new hL _⟩
  · exact ⟨cgiConfig L, rfl, fun _ => cgiAnswer_new hL _⟩

theorem proxySite_silent (hentries : ∀ entry ∈ cgiTexts, ¬ Reaches entry.1 path) :
    (proxySite L data).findCgiHandler path = none := by
  have hne : ∀ entry ∈ cgiTexts, truncatedPath path ≠ entry.1 := fun entry hentry heq =>
    hentries entry hentry ((truncatedPath_eq_iff _ _).mp heq)
  simp only [cgiTexts, List.forall_mem_cons] at hne
  obtain ⟨hstatus, hconfig, -⟩ := hne
  rw [findCgiHandler_proxySite, if_neg hconfig, if_neg hstatus]

/-- A page is served for GET and HEAD of its path. -/
def Serves (page : Page) (q : IncomingRequest) : Prop := q.method ≠ .post ∧ q.request.path = page.path

/-- The handler of a location answers GET. -/
def Says (location : String) (q : IncomingRequest) : Prop :=
  q.method = .get ∧ Reaches location q.request.path

open StateEventsWithWebServing in
/-- **The site.** Every request is answered, with a true result and one response: GET and HEAD of exactly
the path of a page with the page, GET of a CGI location, with or without a query, with what its handler
says, and all other requests with the 404 page. -/
theorem proxySite_answers (hL : L.Documented) (data : HttpServerContentData) (q : IncomingRequest) :
    ∃ response, onIncomingHttpRequest L (proxySite L data) q.method q.request =
        some (true, [response]) ∧
      (∀ page ∈ data.pages, Serves page q → response = page.response q.method) ∧
      (∀ entry ∈ cgiTexts, Says entry.1 q → response = jsonResponse entry.2) ∧
      ((∀ page ∈ data.pages, ¬ Serves page q) → (∀ entry ∈ cgiTexts, ¬ Says entry.1 q) →
        response = notFoundResponse) := by
  have hfiles : (proxySite L data).builtinFiles.HasContent :=
    load_hasContent data fun _ => none
  refine ⟨(proxySite L data).respond L q, ?_, ?_, ?_, ?_⟩
  · exact onIncomingHttpRequest_respond hL hfiles q
  · intro page hpage hserves
    obtain ⟨blob, hfind, hstores⟩ := load_page (fun _ => none) hpage
    rw [respond_file hserves.1 (hserves.2 ▸ hfind) hstores]
    exact fileResponse_page page q.method
  · rintro ⟨location, text⟩ hentry ⟨hget, hreaches⟩
    obtain ⟨handler, hselect, htext⟩ := proxySite_text hL hentry hreaches
    have hfind : (proxySite L data).builtinFiles.find q.request.path = none :=
      load_missing (fun _ => none) fun page hpage => page_ne_of_reaches hpage hentry hreaches
    exact respond_cgi hget hfind hselect (htext q.request)
  · intro hpages hentries
    refine (respond_nothing ?_ ?_ ?_).trans (error404_new hL q.request)
    · exact fun hpost => load_missing (fun _ => none) fun page hpage hpath =>
        hpages page hpage ⟨hpost, hpath⟩
    · exact fun hget => proxySite_silent fun entry hentry hreaches =>
        hentries entry hentry ⟨hget, hreaches⟩
    · exact fun handler hselect => RepositoryHandler.post_eq
        (repositoryHandler_of_find (constructed_repositoryHandlers L _) hselect) _ _

open StateEventsWithWebServing in
/-- HEAD of the logo announces its length and sends none of it. -/
theorem proxySite_answers_logo :
    ∃ response, onIncomingHttpRequest .plain (proxySite .plain .plain) .head ⟨"/logo.png"⟩ =
        some (true, [response]) ∧
      response.headers = ["Connection: Close", "Content-Type: image/png", "Content-Length: 9806"] ∧
      response.content = [] := by
  obtain ⟨response, hsent, hpages, -⟩ :=
    proxySite_answers HttpLibrary.plain_documented .plain ⟨.head, ⟨"/logo.png"⟩⟩
  have hlogo := hpages ⟨"/logo.png", "image/png", HttpServerContentData.plain.logoPng⟩
    (List.mem_cons_of_mem _ (List.mem_cons_of_mem _ (List.mem_cons_of_mem _ List.mem_cons_self)))
    ⟨nofun, rfl⟩
  refine ⟨response, hsent, ?_, ?_⟩
  · rw [hlogo, Page.response, HttpServerContentData.plain.logoPng_length]
    rfl
  · rw [hlogo]
    rfl

end NetworkServiceHttp

end AvdeccProxy
