import Coap.Cbor
import Coap.Handler.Call
import Coap.Json

/-!
# Handlers

What a handler does with a request is a program: calls to the server one after the other, each step
depending on what came back so far. A handler may also add resources, which come with handlers of their
own. A resource is a handler with the profile it is added with.

* `Program` — the programs, finite in depth.
* `Tree.mount`, `Tree.mountBelow`, `Tree.mountAt` — add a resource to a tree.
* `Program.respond`, `respondPayload`, `respondContent`, `respondJson` — the ways to answer a request.
* `Program.byMethod` — handle each method in its own way, and refuse the others.
-/

namespace Coap

/-- What a handler does with a request. -/
inductive Program (ν : Type) where
  /-- Nothing more. -/
  | done
  /-- A call, and what to do with its result. -/
  | call (c : Call ν) (next : c.Result → Program ν)
  /-- Add a resource with its handler below another. -/
  | add (parent : ResourceId) (profile : Profile) (handler : Addressed Message → Program ν)
      (next : Except TreeError ResourceId → Program ν)

/-- What handles requests. -/
structure Resource (ν : Type) where
  /-- What is fixed about it when it is added to a tree. -/
  profile : Profile
  /-- What it does with a request. -/
  handler : Addressed Message → Program ν

namespace Tree

variable {ν : Type}

/-- A tree with a resource as its root. -/
def rooted (r : Resource ν) : Tree (Resource ν) := .withRoot r.profile r

/-- Add a resource below the root. -/
def mount (t : Tree (Resource ν)) (r : Resource ν) :
    Tree (Resource ν) × Except TreeError ResourceId :=
  t.add r.profile r

/-- Add a resource below another. -/
def mountBelow (t : Tree (Resource ν)) (parent : ResourceId) (r : Resource ν) :
    Tree (Resource ν) × Except TreeError ResourceId :=
  t.addChild parent r.profile r

/-- Add a resource below the one at a path. -/
def mountAt (t : Tree (Resource ν)) (path : String) (r : Resource ν) :
    Tree (Resource ν) × Except TreeError ResourceId :=
  t.addAt path r.profile r

end Tree

namespace Program

variable {ν : Type}

/-- Answer with a given response. -/
def respondWith (r : Response) (next : Except RespondError Unit → Program ν) : Program ν :=
  .call (.respond r) next

/-- Answer with a code and a payload. -/
def respondPayload (code : Code) (payload : Bytes) (next : Except RespondError Unit → Program ν) :
    Program ν :=
  respondWith (.ofCode code payload) next

/-- Answer with a code. -/
def respond (code : Code) (next : Except RespondError Unit → Program ν) : Program ν :=
  respondPayload code [] next

/-- Answer with a code and a payload in a given format. -/
def respondContent (code : Code) (payload : Bytes) (format : ContentFormat)
    (next : Except RespondError Unit → Program ν) : Program ν :=
  let r := Response.ofCode code payload
  respondWith { r with message := r.message.setContentFormat format } next

/-- Answer with a code and a JSON value. A value that could not be worked out is reported, and answered
as an error of the server. -/
def respondJson (code : Code) (value : Except String Json)
    (next : Except RespondError Unit → Program ν) : Program ν :=
  match value with
  | .ok json => respondContent code json.bytes .json next
  | .error cause =>
    .call (.report .error s!"failed to serialize response: {cause}") fun _ =>
      respond .internalServerError next

/-- Refuse the method. -/
def methodNotAllowed : Program ν := respond .methodNotAllowed fun _ => .done

/-- Handle the registered methods for which `on` says how, and refuse the others. -/
def byMethod (on : Method → Option (Program ν)) (request : Addressed Message) : Program ν :=
  ((Method.ofCode? request.data.code).bind on).getD methodNotAllowed

end Program

end Coap
