import Coap.Forward.Error
import Coap.Message.Basic
import Coap.Text.Quoted
import Coap.Url.Parser

/-!
# Targets of proxied requests

* `Message.proxyTarget` — the URL a proxied request asks for: that of its Proxy-Uri option, or else
  the one put together from its Proxy-Scheme, Uri-Host, Uri-Port, Uri-Path and Uri-Query options.
* `Message.dropPath` — a request without the path of the resource that forwards it.
-/

namespace Coap.Message

/-- The text of the URL that the parts of a proxied request make. -/
def assembledTarget (m : Message) (scheme host : String) : String :=
  let port := match m.uint? .uriPort with
    | some p => ":" ++ toString p.toNat
    | none => ""
  let query := if m.query.isEmpty then "" else "?" ++ Text.join "&" m.query
  scheme ++ "://" ++ host ++ port ++ "/" ++ m.pathText ++ query

/-- The URL a proxied request asks for. -/
def proxyTarget (m : Message) : Except ForwardError Url :=
  let url (label text : String) : Except ForwardError Url :=
    (Url.ofText text).mapError fun e => .badOption s!"{label}{Text.quoted text}: {e.message}"
  match m.options.first? .proxyUri with
  | some value =>
    match Text.ofBytes? value with
    | some text => url "Proxy-Uri " text
    | none => .error (.badOption "Proxy-Uri is not UTF-8")
  | none =>
    match m.options.first? .proxyScheme with
    | none => .error (.badOption "no Proxy-Uri or Proxy-Scheme")
    | some value =>
      match Text.ofBytes? value with
      | none => .error (.badOption "Proxy-Scheme is not UTF-8")
      | some scheme =>
        match m.text? .uriHost with
        | none => .error (.badOption "Proxy-Scheme without Uri-Host")
        | some host => url "" (m.assembledTarget scheme host)

/-- The request without the segments of `path`, if its own path begins with them. The segments behind
them stay as they are; if there are none, the request has no path at all. -/
def dropPath (m : Message) (path : String) : Message :=
  let own := (Text.pieces '/' path).map Text.bytes
  match m.options.get? .uriPath with
  | none => m
  | some values =>
    if own.isEmpty || !own.isPrefixOf values then m
    else
      match values.drop own.length with
      | [] => m.remove .uriPath
      | rest => { m with options := m.options.insert .uriPath rest }

end Coap.Message
