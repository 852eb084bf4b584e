import Coap.Forward.Error
import Coap.Response
import Coap.Url.Basic

/-!
# Requests to origins and their responses

* `Message.toOrigin` — the request that a proxy sends to the origin server for a client's request.
* `Response.fromOrigin` — what is left of the origin's response when it is passed on.
-/

namespace Coap

/-- Options that are about the first hop only. -/
def hopByHop : List OptionNumber :=
  [.proxyUri, .proxyScheme, .uriHost, .uriPort, .uriPath, .uriQuery]

/-- The host as an option, unless it is an address. -/
def Url.hostOption? (u : Url) : Option String :=
  (u.host?.bind Host.name?).filter fun name => (Ip.ofText? name).isNone

/-- The request to the origin at a URL: code, payload and options of the client's request, except that
host, path and query are those of the URL. -/
def Message.toOrigin (m : Message) (target : Url) (id : UInt16) (token : Token) : Message :=
  let kept := m.options.filter fun n _ => n ∉ hopByHop
  let out := { Message.new .con m.code id token with options := kept, payload := m.payload }
  let out := match target.hostOption? with
    | some host => out.set .uriHost (Text.bytes host)
    | none => out
  let out := out.setPath target.path.text
  match target.query with
  | some query => out.setQuery query
  | none => out

/-- The origin's response as it is passed on: code, payload and options, without Observe. -/
def Response.fromOrigin (r : Response) : Except MappingError Response :=
  let m := r.message
  if m.code.kind = .response then
    .ok (.ofMessage
      { Message.new .ack m.code 0 .empty with
        options := m.options.erase .observe
        payload := m.payload })
  else .error (.notAResponse m.code)

end Coap
