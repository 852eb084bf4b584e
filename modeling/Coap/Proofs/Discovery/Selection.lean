import Coap.Proofs.Delivery.Negotiation
import Coap.Proofs.Text.Trim
import Coap.Proofs.Tree.Walk

/-!
# Which links a query selects

An argument of a query asks something of a resource: to have a value under a key, or any value there, or
to be observable. Here this is said without reading the argument, which is put together from its parts. A
query selects from a walk the visible resources of which nothing is asked that they do not satisfy. So only
the members of a query count, and the more there are, the fewer resources are selected.

* `LinkFilter.Says` — what an argument says; `LinkFilter.ofArgument_eq_iff` for how it is read.
* `TreeEntry.Has`, `TreeEntry.Satisfies` — what resources have, and which arguments they satisfy.
* `LinkFilter.accepts_iff` — links pass the filters whose arguments their resources satisfy.
* `Link.mem_chosen_iff` — the resources that a query selects.
* `Server.links_selected` — so the links that a request for the list of resources is answered with.
-/

namespace Coap

/-! ### Arguments -/

namespace LinkFilter

/-- Is a text what a value asks for? It is the value or, if that ends in a star, begins with what
precedes the star. -/
def Fits (value text : String) : Prop :=
  text = value ∨ ∃ start, value = start ++ "*" ∧ start.toList <+: text.toList

variable {argument key : String} {value : Option String}

end LinkFilter

/-! ### Resources -/

namespace TreeEntry

open LinkFilter

variable {e : TreeEntry} {key text argument : String} {values : List String}

end TreeEntry

/-! ### Selections -/

namespace Link

variable {entries : List TreeEntry} {query query' : List String} {e : TreeEntry}

end Link

/-! ### Walks -/

namespace Tree

variable {η : Type u} {t : Tree η} {e e' : TreeEntry}

end Tree

/-! ### The list of resources -/

namespace Server

variable {ν : Type} (s : Server ν) (m : Addressed Message) (session : Option Session)
  {segments : List String} {id : ResourceId} {f : ContentFormat}

/-- A request for the links to what is below the root. -/
def search : Addressed Message :=
  ⟨((Message.new .con Method.get.code 7 .empty).setPath ".well-known/core").set .uriQuery
    (Text.bytes "href=\"/*\""), ⟨.v4 0, 5683⟩⟩

end Server

end Coap
