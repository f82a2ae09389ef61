import AvdeccProxy.ClientIsolation
import AvdeccProxy.HttpSite

/-! From a request to the wire. The parser of a handler finds requests while its state machine runs, and
each of them runs a request event on the site of the service. What those events send is all that is ever
written with `onUvWriteThenClose`, to the connection the handler hosts at the time: over a whole run every
request found is answered, once and in order, and no handler answers the requests of another. Whether the
answer reaches libuv depends on the handle alone. -/

namespace AvdeccProxy

open NetworkServiceHttp Connection

variable {M : Mcu}

/-- The request event of a request sends the one response the site has for it. -/
theorem Mcu.responses_eq (hL : M.toHttpLibrary.Documented) (hfiles : M.site.builtinFiles.HasContent)
    (q : IncomingRequest) : M.responses q = [M.site.respond M.toHttpLibrary q] := by
  have hsent := onIncomingHttpRequest_respond hL hfiles q
  rw [← Option.some_get (M.siteDefined q), Option.some_inj] at hsent
  exact congrArg Prod.snd hsent

/-! ### The requests of a handler -/

/-- A request found on a connection, and whether libuv takes the write of its response. -/
structure FoundRequest where
  connection : Nat
  request : IncomingRequest
  taken : Bool
  deriving DecidableEq, Repr

/-- The request a call is made for, on the handle that hosts the connections. -/
def Call.found (connections : List Connection) : Call → Option FoundRequest
  | .onIncomingHttpRequest q accepted =>
      some ⟨currentNumber connections, q, accepted && isOpen connections⟩
  | _ => none

/-- The requests found during the event, in order. -/
def ClientEvent.requests (e : ClientEvent M) (a : ApsClient M) : List FoundRequest :=
  (e.behaviours a).flatMap fun b => b.calls.filterMap (Call.found (e.change a).connections)

/-- The write of the response to a request. -/
def FoundRequest.answer (M : Mcu) (found : FoundRequest) : Write where
  data := M.flatten (M.site.respond M.toHttpLibrary found.request)
  callback := .onUvWriteThenClose
  connection := found.connection
  taken := found.taken

/-- The write carries an HTTP response. -/
def Write.isResponse (w : Write) : Bool := w.callback == .onUvWriteThenClose

theorem Call.filter_writes (hL : M.toHttpLibrary.Documented) (hfiles : M.site.builtinFiles.HasContent)
    (connections : List Connection) (request : Call) :
    (request.writes M connections).filter Write.isResponse =
      (request.found connections).toList.map (·.answer M) := by
  cases request with
  | sendTcpData data accepted => rfl
  | onIncomingHttpRequest q accepted =>
      rw [Call.writes, Mcu.responses_eq hL hfiles]
      rfl
  | sendAvdeccToL2 frame => rfl
  | closeTcpConnection => rfl
  | closeTcpServer => rfl

theorem Behaviour.filter_writes (hL : M.toHttpLibrary.Documented)
    (hfiles : M.site.builtinFiles.HasContent) (connections : List Connection) (b : Behaviour M) :
    (b.writes connections).filter Write.isResponse =
      (b.calls.filterMap (Call.found connections)).map (·.answer M) := by
  rw [Behaviour.writes, List.filter_flatMap, List.filterMap_eq_flatMap_toList, List.map_flatMap]
  exact List.flatMap_congr fun request _ => request.filter_writes hL hfiles connections

theorem ClientEvent.filter_writes (hL : M.toHttpLibrary.Documented)
    (hfiles : M.site.builtinFiles.HasContent) (e : ClientEvent M) (a : ApsClient M) :
    (e.writes a).filter Write.isResponse = (e.requests a).map (·.answer M) := by
  rw [ClientEvent.writes, ClientEvent.requests, List.filter_flatMap, List.map_flatMap]
  exact List.flatMap_congr fun b _ => b.filter_writes hL hfiles _

/-! ### Runs -/

namespace NetworkService

/-- What happens to the handler in a run, with the states it is in. -/
def courseOf (M : Mcu) (c : ClientPtr) (maxClients : Int) (events : List (Event M)) :
    List (ApsClient M × ClientEvent M) :=
  (ApsClient.alone M).course (.constructed M)
    ((handler M c).runInputs (constructed M maxClients) events)

/-- The requests the parser of the handler finds in a run. -/
def requestsFound (M : Mcu) (c : ClientPtr) (maxClients : Int) (events : List (Event M)) :
    List FoundRequest :=
  (courseOf M c maxClients events).flatMap fun p => p.2.requests p.1

/-- The writes made for a handler in a run are those of its events. -/
theorem runOutputs_eq {maxClients : Int} {events : List (Event M)} (c : ClientPtr)
    (hlegal : (service M).Legal (constructed M maxClients) events) :
    (handler M c).runOutputs (constructed M maxClients) events =
      (courseOf M c maxClients events).flatMap fun p => p.2.writes p.1 := by
  have hrun := Transition.View.reacts_run (run_faithful c hlegal)
  rw [courseOf]
  exact (congrArg Prod.snd hrun).symm.trans (Transition.Component.outputs_eq_course _ _ _)

/-- **Requests and responses.** The HTTP responses written for a handler in a run are the responses of the
site to the requests its own parser found, each once, in order, and to the connection it was found on. Those
libuv took answer the requests that were found while the handle was open and libuv accepted the write. -/
theorem requests_answered (maxClients : Int) (events : List (Event M)) (c : ClientPtr)
    (hL : M.toHttpLibrary.Documented) (hfiles : M.site.builtinFiles.HasContent)
    (hlegal : (service M).Legal (constructed M maxClients) events) :
    let responses := ((handler M c).runOutputs (constructed M maxClients) events).filter Write.isResponse
    responses = (requestsFound M c maxClients events).map (·.answer M) ∧
      responses.filter (·.taken) =
        ((requestsFound M c maxClients events).filter (·.taken)).map (·.answer M) := by
  intro responses
  have hall : responses = (requestsFound M c maxClients events).map (·.answer M) := by
    calc responses
        = (courseOf M c maxClients events).flatMap fun p =>
            (p.2.writes p.1).filter Write.isResponse := by
          show List.filter _ _ = _
          rw [runOutputs_eq c hlegal, List.filter_flatMap]
      _ = (courseOf M c maxClients events).flatMap fun p => (p.2.requests p.1).map (·.answer M) :=
          List.flatMap_congr fun p _ => p.2.filter_writes hL hfiles p.1
      _ = (requestsFound M c maxClients events).map (·.answer M) := by
          rw [requestsFound, List.map_flatMap]
  refine ⟨hall, ?_⟩
  rw [hall, List.filter_map]
  rfl

/-- A client asks for a page and for one that is not there, and libuv does not take the second answer; a
client next to it asks for the page too. -/
def threeRequests : List (Event .plain) :=
  [.listen 0 0 (.silent _), .listen 0 0 (.silent _),
    .read 1 40 ⟨⟨[.onIncomingHttpRequest ⟨.get, ⟨"/index.html"⟩⟩ true, .sendTcpData [1] true,
      .onIncomingHttpRequest ⟨.get, ⟨"/nothing"⟩⟩ false], id⟩, 40, .silent _, .silent _⟩,
    .read 0 18 ⟨⟨[.onIncomingHttpRequest ⟨.head, ⟨"/index.html"⟩⟩ true], id⟩, 18, .silent _,
      .silent _⟩]

theorem requests_answered_threeRequests :
    let page : FoundRequest := ⟨0, ⟨.get, ⟨"/index.html"⟩⟩, true⟩
    let nothing : FoundRequest := ⟨0, ⟨.get, ⟨"/nothing"⟩⟩, false⟩
    ((handler .plain 1).runOutputs (constructed .plain 2) threeRequests).filter Write.isResponse =
        [page.answer .plain, nothing.answer .plain] ∧
      (((handler .plain 1).runOutputs (constructed .plain 2) threeRequests).filter
        Write.isResponse).filter (·.taken) = [page.answer .plain] :=
  requests_answered 2 threeRequests 1 HttpLibrary.plain_documented
    StateEventsWithWebServing.onePage_hasContent (by decide +kernel)

end NetworkService

end AvdeccProxy
