import Coap.Discovery.Filter
import Coap.Handler.Program

/-!
# Resources that every server can use

* `Resource.root` — the root of a tree, which answers a GET with a greeting.
* `Resource.container` — a resource that is there for those below it.
* `Resource.core` — the list of resources that a server publishes about itself, as a link-format
  document, as JSON or as CBOR.
* `Resource.forwarding` — a resource that forwards each of its requests.
-/

namespace Coap.Resource

variable {ν : Type}

/-- Profile of a resource that says nothing about itself. -/
def plain (name : String) (visible : Bool) : Profile := ⟨name, .none, false, visible⟩

/-- The root of a tree: not listed, and it answers a GET with a greeting. -/
def root : Resource ν where
  profile := plain "" false
  handler request := Program.byMethod (ν := ν)
    (fun m =>
      if m = .get then some (.respondPayload .content (Text.bytes "croak") fun _ => .done) else none)
    request

/-- A resource that only gives those below it a path. -/
def container (name : String) (visible : Bool) : Resource ν where
  profile := plain name visible
  handler _ := Program.methodNotAllowed

/-! ## Discovery -/

/-- The names on the way to the list of resources. -/
def corePath : List String := [".well-known", "core"]

/-- Answer with links in the format that is asked for. -/
def respondLinks (accept : Option ContentFormat) (links : List Link) : Program ν :=
  let answer (payload : Bytes) (format : ContentFormat) : Program ν :=
    .respondContent .content payload format fun _ => .done
  match accept with
  | none => answer (Text.bytes (Link.document links)) .linkFormat
  | some .linkFormat => answer (Text.bytes (Link.document links)) .linkFormat
  | some .json => .respondJson .content (.ok (Link.json links)) fun _ => .done
  | some .cbor => answer (Link.cbor links).bytes .cbor
  | some _ => .respond .badOption fun _ => .done

/-- The list of resources, filtered by the query of the request. -/
def core : Resource ν where
  profile := plain "core" true
  handler request := Program.byMethod (ν := ν)
    (fun m =>
      if m = .get then
        some (.call .walk fun entries =>
          respondLinks request.data.accept? (Link.select entries request.data.query))
      else none)
    request

/-! ## Forwarding -/

/-- Answer with what forwarding a request led to. -/
def respondForwarded (name : String) (result : Except ForwardError Response) : Program ν :=
  match result with
  | .ok r =>
    .respondWith r fun
      | .ok _ => .done
      | .error e =>
        .call (.report .warning s!"origin response unusable: {e.message}") fun _ =>
          .respond .badGateway fun _ => .done
  | .error e =>
    .call (.report .warning s!"{name}: {e.failure.text}; {e.message}") fun _ =>
      .respondPayload e.code (Text.bytes e.message) fun _ => .done

/-- A resource that forwards each of its requests. It announces a separate response first, and takes
its own path off the request. -/
def forwarding (name : String) (attributes : Attributes) (f : Forwarder) : Resource ν where
  profile := ⟨name, attributes, false, true⟩
  handler request :=
    .call .accept fun _ =>
      .call .exchange fun exchange =>
        let send (request : Addressed Message) : Program ν :=
          .call (.forward f request) (respondForwarded name)
        match exchange.resource with
        | none => send request
        | some id =>
          .call (.pathOf id) fun path =>
            send (match path with
              | some path => request.map (·.dropPath path)
              | none => request)

end Coap.Resource
