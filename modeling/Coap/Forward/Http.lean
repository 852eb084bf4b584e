import Coap.ContentFormat
import Coap.Forward.Error
import Coap.Http.Message
import Coap.Method
import Coap.Message.Basic
import Coap.Response
import Coap.Text.Blank
import Coap.Url.Basic

/-!
# Requests and responses between CoAP and HTTP

* `Method.toHttp`, `Method.codeOfStatus` — methods one way, and statuses back.
* `Message.toHttp` — the HTTP request for a CoAP request.
* `Response.ofHttp` — the CoAP response for an HTTP response.

Entity-tags travel as hexadecimal digits in quotes.
-/

namespace Coap

/-! ## Methods and statuses -/

/-- The HTTP method for a request code; the two kinds of patch are one there. -/
def Method.toHttp (code : Code) : Except MappingError String :=
  match Method.ofCode? code with
  | some m => .ok (if m = .ipatch then "PATCH" else m.text)
  | none => .error (.unsupportedMethod code)

/-- Does the method leave the resource as it is? -/
def Method.isSafe (m : Method) : Bool := m = .get || m = .fetch

/-- The response code for a status, which depends on the method of the request. Statuses without an
entry go by their hundreds. -/
def Method.codeOfStatus (m : Method) (status : Nat) : Except MappingError Code :=
  match status with
  | 200 => .ok (if m.isSafe then .content else .changed)
  | 201 => .ok .created
  | 204 => .ok (if m = .delete then .deleted else .changed)
  | 304 => .ok .valid
  | 401 => .ok .unauthorized
  | 403 => .ok .forbidden
  | 404 => .ok .notFound
  | 405 => .ok .methodNotAllowed
  | 406 => .ok .notAcceptable
  | 410 => .ok .notFound
  | 412 => .ok .preconditionFailed
  | 413 => .ok .requestEntityTooLarge
  | 415 => .ok .unsupportedContentFormat
  | 501 => .ok .notImplemented
  | 502 => .ok .badGateway
  | 503 => .ok .serviceUnavailable
  | 504 => .ok .gatewayTimeout
  | other =>
    match other / 100 with
    | 2 => .ok .content
    | 4 => .ok .badRequest
    | 5 => .ok .internalServerError
    | _ => .error (.unsupportedStatus other)

/-! ## Requests -/

/-- The HTTP request for a CoAP request to a URL. Of the formats it accepts only one that has a media
type is passed on, while the format of its payload must have one. -/
def Message.toHttp (m : Message) (target : Url) : Except MappingError Http.Request := do
  let method ← Method.toHttp m.code
  let contentType ← match m.contentFormat? with
    | none => pure []
    | some format =>
      match format.mediaType? with
      | some mediaType => pure [("content-type", mediaType)]
      | none => throw (.unsupportedContentFormat format.number)
  let accept := (m.accept?.bind ContentFormat.mediaType?).toList.map fun mediaType =>
    ("accept", mediaType)
  let tags := (m.options.valuesOf .etag).map fun tag =>
    ("if-none-match", "\"" ++ Bytes.toHex tag ++ "\"")
  let uri ← (Http.Uri.ofText target.text).mapError .uri
  return { method, uri, headers := accept ++ contentType ++ tags, body := m.payload }

/-! ## Responses -/

namespace Http

/-- The value of one hexadecimal digit behind a plus sign, or of two digits. -/
def pair? (hi lo : UInt8) : Option UInt8 :=
  let digit (b : UInt8) := Bytes.hexValue? (Char.ofNat b.toNat)
  match digit lo with
  | none => none
  | some y =>
    if hi = 0x2B then some y.toUInt8 else (digit hi).map fun x => (x * 16 + y).toUInt8

/-- The values of pairs of octets. -/
def pairs? : Bytes → Option Bytes
  | [] => some []
  | [_] => none
  | hi :: lo :: rest => do return (← pair? hi lo) :: (← pairs? rest)

/-- The octets that at most sixteen hexadecimal digits stand for. -/
def unhex? (s : String) : Option Bytes :=
  let octets := Text.bytes s
  if 16 < octets.length then none else pairs? octets

/-- A number of 32 bits in decimal digits, perhaps behind a plus sign. -/
def seconds? (cs : List Char) : Option UInt32 :=
  let digits := match cs with
    | '+' :: rest => rest
    | _ => cs
  if digits.isEmpty || !digits.all Char.isDigit then none
  else
    let n : Nat := digits.foldl (fun n c => n * 10 + (c.toNat - 0x30)) 0
    if n < UInt32.size then some n.toUInt32 else none

/-- What follows a given beginning. -/
def behind? (start cs : List Char) : Option (List Char) :=
  if start.isPrefixOf cs then some (cs.drop start.length) else none

/-- The age that the first usable directive on it allows. -/
def maxAge? (cacheControl : String) : Option UInt32 :=
  (Text.splitChars ',' cacheControl.toList).findSome? fun directive => do
    let value ← behind? "max-age=".toList (Text.trimChars Text.isBlank directive)
    seconds? (Text.trimChars Text.isBlank value)

/-- Without the marks of a weak tag in front. -/
def dropWeak : List Char → List Char
  | 'W' :: '/' :: rest => dropWeak rest
  | cs => cs

/-- The entity-tag option for an entity-tag: the octets that it writes in hexadecimal digits, or else
its first eight octets. -/
def etag (tag : String) : Bytes :=
  let inner := String.ofList (Text.trimChars (· == '"') (dropWeak tag.toList))
  (unhex? inner).getD ((Text.bytes inner).take 8)

/-- Is this the media type of some kind of text? -/
def isText (mediaType : String) : Bool :=
  "text/".toList.isPrefixOf
    ((Text.trimChars Text.isBlank mediaType.toList).map Char.toLower)

/-- The format in which a body can be passed on. -/
def formatOf? (mediaType : String) : Option ContentFormat :=
  (ContentFormat.ofMediaType? mediaType).or (if isText mediaType then some .text else none)

/-- A message with the body of a response. A body in a format that CoAP does not have becomes an error
without a payload. -/
def withBody (m : Message) (r : Http.Response) : Message :=
  match r.text? "content-type" with
  | some mediaType =>
    if r.body.isEmpty then m
    else
      match formatOf? mediaType with
      | some format => { m.setContentFormat format with payload := r.body }
      | none => { m with code := .unsupportedContentFormat }
  | none => { m with payload := r.body }

end Http

/-- The CoAP response for an HTTP response to a request with a given method. -/
def Response.ofHttp (r : Http.Response) (method : Method) : Except MappingError Response := do
  let code ← method.codeOfStatus r.status
  let m := Http.withBody (.new .ack code 0 .empty) r
  let m := match (r.text? "cache-control").bind Http.maxAge? with
    | some age => m.setUInt .maxAge age
    | none => m
  let m := match r.text? "etag" with
    | some tag => m.set .etag (Http.etag tag)
    | none => m
  return .ofMessage m

end Coap
